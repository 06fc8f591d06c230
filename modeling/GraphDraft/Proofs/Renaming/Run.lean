import GraphDraft.Proofs.Document.Later
import GraphDraft.Proofs.Renaming.Draft

/-!
# Lines on renamed drafts

An intent does to a renamed draft what it does to the draft, renamed, and fails for the same reason
(`Intent.run_rename`). Hence so does a line (`runAll_rename`), as long as the renaming tracks the
document at its start.
-/

namespace GraphDraft

open Document

variable {ρ : Renaming} {d e : Document} {x : Draft}

theorem Renaming.Tracks.later (h : ρ.Tracks d) (hl : d.Later e) : ρ.Tracks e where
  node i hi := h.node i (Nat.le_trans hl.nextNode hi)
  graph i hi := h.graph i (Nat.le_trans hl.nextGraph hi)
  definition i hi := h.definition i (Nat.le_trans hl.nextDefinition hi)

def Outcome.rename (ρ : Renaming) (o : Outcome) : Outcome where
  draft := o.draft.rename ρ
  error := o.error

/-! ## Claims -/

namespace Claim

theorem suits_rename (n : NodeId) (taken : List String) (v : Value) (i : ValueInput) :
    suits (d.rename ρ) (ρ.node n) taken v i = suits d n taken v i := by
  rw [suits, inputConnected_rename, suits]

theorem firstFit_rename (n : NodeId) (is : List ValueInput) (taken : List String)
    (vs : List Value) :
    firstFit (d.rename ρ) (ρ.node n) is taken vs = firstFit d n is taken vs := by
  induction vs generalizing taken with
  | nil => rfl
  | cons v vs ih =>
    have hsuits := funext (suits_rename (ρ := ρ) (d := d) n taken v)
    rw [firstFit, hsuits, firstFit]
    cases is.find? (suits d n taken v) with
    | none => exact ih taken
    | some i => exact congrArg _ (ih _)

theorem probe_rename (typed : List String) : probe (d.rename ρ) typed = probe d typed := by
  rw [probe, anchor?_rename, probe]
  cases d.anchor? with
  | none => rfl
  | some r => exact congrArg some (firstFit_rename ..)

end Claim

/-! ## Commands -/

namespace Draft

theorem head?_rename : (x.rename ρ).document.selection.head? =
    x.document.selection.head?.map ρ.node :=
  List.head?_map

theorem anchor?_draft_rename : (x.rename ρ).document.anchor? =
    x.document.anchor?.map fun r => (ρ.node r.1, r.2.rename ρ) :=
  anchor?_rename ρ x.document

theorem create_rename (ht : ρ.Tracks x.document) (b : Blueprint) (left : Bool) :
    (x.rename ρ).create b left = (x.create b left).rename ρ := by
  rw [create, createNode_rename ht, create]
  cases x.createNode b left <;> rfl

theorem createUnit_rename (ht : ρ.Tracks x.document) (catalog : Catalog) (query : String)
    (left isLast : Bool) : (x.rename ρ).createUnit catalog query left isLast =
      (x.createUnit catalog query left isLast).rename ρ := by
  simp only [createUnit]
  cases (catalog.search query (if isLast then hintSize else 1)).head? with
  | none => rfl
  | some entry =>
    simp only [create_rename ht]
    split <;> rfl

theorem createSubgraph_rename (ht : ρ.Tracks x.document) (title : String)
    (entry exit left : Bool) : (x.rename ρ).createSubgraph title entry exit left =
      (x.createSubgraph title entry exit left).rename ρ := by
  rw [createSubgraph, create_rename ht]
  rfl

theorem addPort_rename (ht : ρ.Tracks x.document) (kind : PortKind) (name : String) :
    (x.rename ρ).addPort kind name = (x.addPort kind name).rename ρ := by
  rw [addPort, editedGraph_rename, definePort_rename ht, addPort]
  split
  · rfl
  · cases x.definePort x.editedGraph kind name <;> rfl

theorem setClaims_rename (n : NodeId) (claims : List Claim) :
    (x.rename ρ).setClaims (ρ.node n) claims = (x.setClaims n claims).rename ρ := by
  induction claims generalizing x with
  | nil => rfl
  | cons c claims ih =>
    rw [setClaims, List.foldl_cons, setDefault_rename]
    exact ih

theorem applyClaims_rename (claims : List Claim) :
    (x.rename ρ).applyClaims claims = (x.applyClaims claims).rename ρ := by
  rw [applyClaims, head?_rename, applyClaims]
  cases x.document.selection.head? with
  | none => rfl
  | some n =>
    simp only [Option.map_some, setClaims_rename]
    rfl

theorem assignDefaults_rename (values : List String) :
    (x.rename ρ).assignDefaults values = (x.assignDefaults values).rename ρ := by
  have hprobe : Claim.probe (x.rename ρ).document values = Claim.probe x.document values :=
    Claim.probe_rename values
  rw [assignDefaults, hprobe, assignDefaults]
  cases Claim.probe x.document values with
  | none => rfl
  | some claims => exact applyClaims_rename claims

theorem linkedPort?_rename (n : NodeId) (p : Ports) (access : Access) :
    linkedPort? (d.rename ρ) (ρ.node n) p access = linkedPort? d n p access := by
  cases access <;> simp only [linkedPort?, outputConnected_rename, inputConnected_rename]

theorem join_rename (c : Edge) : (x.rename ρ).join (c.rename ρ) = (x.join c).rename ρ := by
  have hconnect := connect_rename (ρ := ρ) (d := x.document) c
  simp only [join, rename, hconnect]

/-- Declaring variables hands out no identities. -/
theorem tracks_declareVariable (ht : ρ.Tracks x.document) (scope : Scope) (g : GraphId)
    (name : String) (type : DataType) :
    ρ.Tracks (x.declareVariable scope g name type).2.document :=
  ht.later ((stable_later _).declare scope g name type (.refl _))

theorem placeAccessor_rename (ht : ρ.Tracks x.document) (scope : Scope) (access : Access)
    (name : String) (n : NodeId) (z : Node) (key : String) (type : DataType) :
    (x.rename ρ).placeAccessor scope access name (ρ.node n) (z.rename ρ) key type =
      (x.placeAccessor scope access name n z key type).rename ρ := by
  have ht' := tracks_declareVariable ht scope z.graph name type
  have hplace := placeNode_rename ht' z.graph
  simp only [placeAccessor, Node.rename, declareVariable_rename, hplace]
  cases access with
  | set =>
    cases (x.declareVariable scope z.graph name type).2.placeNode z.graph
      (Standard.setVariable scope name type) (z.position + Layout.rightOffset z.ports) with
    | none => rfl
    | some r => exact join_rename ⟨.value, n, key, r.1, "input"⟩
  | get =>
    cases (x.declareVariable scope z.graph name type).2.placeNode z.graph
      (Standard.getVariable scope name type) (z.position + Layout.leftOffset) with
    | none => rfl
    | some r => exact join_rename ⟨.value, r.1, "value", n, key⟩

theorem linkVariable_rename (ht : ρ.Tracks x.document) (scope : Scope) (access : Access)
    (name : Option String) : (x.rename ρ).linkVariable scope access name =
      (x.linkVariable scope access name).rename ρ := by
  rw [linkVariable, anchor?_draft_rename, linkVariable]
  cases x.document.anchor? with
  | none => rfl
  | some r =>
    obtain ⟨n, z⟩ := r
    have hport : linkedPort? (x.rename ρ).document (ρ.node n) (z.rename ρ).ports access =
        linkedPort? x.document n z.ports access := linkedPort?_rename n z.ports access
    simp only [Option.map_some, hport]
    cases linkedPort? x.document n z.ports access with
    | none => rfl
    | some p =>
      simp only [placeAccessor_rename ht]
      split <;> rfl

theorem popSelect_rename (count : Nat) : popSelect count (x.rename ρ) =
    (popSelect count x).rename ρ := by
  induction count generalizing x with
  | zero => rfl
  | succ count ih =>
    have hlast : (x.rename ρ).stack.getLast? = x.stack.getLast?.map ρ.node := List.getLast?_map
    rw [popSelect, hlast, popSelect]
    cases x.stack.getLast? with
    | none => rfl
    | some n =>
      have hselect := select_rename (ρ := ρ) (d := x.document) n
      have hstack : (x.stack.map ρ.node).dropLast = x.stack.dropLast.map ρ.node :=
        List.map_dropLast.symm
      simp only [Option.map_some, ← ih]
      simp only [rename, hstack, hselect]

theorem goUp_rename (count : Nat) : (x.rename ρ).goUp count = (x.goUp count).rename ρ := by
  have hlength : (x.rename ρ).stack.length = x.stack.length := List.length_map ..
  have hstack : (x.rename ρ).stack.dropLast = x.stack.dropLast.map ρ.node :=
    List.map_dropLast.symm
  rw [goUp, hlength, hstack, goUp]
  split
  · rfl
  · exact congrArg done (popSelect_rename (x := { x with stack := x.stack.dropLast }) _)

theorem runBare_rename (ht : ρ.Tracks x.document) (catalog : Catalog) (arguments : List String)
    (left isLast : Bool) : (x.rename ρ).runBare catalog arguments left isLast =
      (x.runBare catalog arguments left isLast).rename ρ := by
  have hprobe : Claim.probe (x.rename ρ).document arguments = Claim.probe x.document arguments :=
    Claim.probe_rename arguments
  simp only [runBare, hprobe, createUnit_rename ht, createSubgraph_rename ht, applyClaims_rename]
  simp only [apply_ite (Outcome.rename ρ)]

end Draft

open Draft

theorem Intent.run_rename (ht : ρ.Tracks x.document) (catalog : Catalog) (i : Intent) :
    i.run catalog (x.rename ρ) = (i.run catalog x).rename ρ := by
  cases i with
  | bare arguments left isLast => exact runBare_rename ht catalog arguments left isLast
  | createUnit query left isLast => exact createUnit_rename ht catalog query left isLast
  | goUp count => exact goUp_rename count
  | createSubgraph title entry exit left => exact createSubgraph_rename ht title entry exit left
  | addPort kind name => exact addPort_rename ht kind name
  | assignDefaults values => exact assignDefaults_rename values
  | linkVariable scope access name => exact linkVariable_rename ht scope access name
  | showAll query => rfl

/-! ## Lines -/

theorem Outcome.report_rename (o : Outcome) : (o.rename ρ).report = o.report.rename ρ := by
  obtain ⟨y, error⟩ := o
  cases error with
  | none => rfl
  | some err => cases h : err.isWarning <;> simp [report, Outcome.rename, h, say_rename]

theorem runAll_rename (ht : ρ.Tracks x.document) (catalog : Catalog) (is : List Intent) :
    runAll catalog is (x.rename ρ) =
      ((runAll catalog is x).1, (runAll catalog is x).2.rename ρ) := by
  induction is generalizing x with
  | nil => rfl
  | cons i is ih =>
    have hdurable := (stable_later x.document).durable
    have hlater := hdurable.report (hdurable.run (.refl x.document) catalog i)
    simp only [runAll, Intent.run_rename ht, Outcome.report_rename, ih (ht.later hlater)]
    rfl

end GraphDraft
