import GraphDraft.Command.Run

/-!
# Intents that fail

An intent that cannot be carried out gives the draft back as it was (`Intent.spares_run`). What the
user is told of it is all that it leaves on the line, and no intent looks at what the user has been
told (`Intent.run_muted`). So a line does what those of its intents do that succeed
(`runAll_succeeding`).
-/

namespace GraphDraft

/-! ## Failures -/

/-- An outcome that fails leaves a draft as it was. -/
def Outcome.Spares (o : Outcome) (x : Draft) : Prop :=
  ∀ e, o.error = some e → o.draft = x

namespace Draft

variable (x y : Draft)

theorem spares_done : y.done.Spares x := by
  intro e h
  cases h

theorem spares_refuse (e : CommandError) : (x.refuse e).Spares x :=
  fun _ _ => rfl

theorem spares_createUnit (catalog : Catalog) (query : String) (left isLast : Bool) :
    (x.createUnit catalog query left isLast).Spares x := by
  simp only [createUnit]
  split
  · exact spares_done x x
  · split
    · exact spares_done x _
    · exact spares_done x _

theorem spares_addPort (kind : PortKind) (name : String) : (x.addPort kind name).Spares x := by
  unfold addPort
  split
  · exact spares_refuse x _
  · exact spares_done x _

theorem spares_applyClaims (claims : List Claim) : (x.applyClaims claims).Spares x := by
  unfold applyClaims
  split
  · exact spares_done x _
  · exact spares_refuse x _

theorem spares_assignDefaults (values : List String) : (x.assignDefaults values).Spares x := by
  unfold assignDefaults
  split
  · exact spares_applyClaims x _
  · exact spares_refuse x _

/-- Whatever can fail is looked at before the variable is declared. -/
theorem spares_linkVariable (scope : Scope) (access : Access) (name : Option String) :
    (x.linkVariable scope access name).Spares x := by
  unfold linkVariable
  split
  · exact spares_refuse x _
  · split
    · exact spares_refuse x _
    · dsimp only
      split
      · exact spares_refuse x _
      · exact spares_done x _

theorem spares_goUp (count : Nat) : (x.goUp count).Spares x := by
  unfold goUp
  split
  · exact spares_done x _
  · exact spares_done x _

theorem spares_runBare (catalog : Catalog) (arguments : List String) (left isLast : Bool) :
    (x.runBare catalog arguments left isLast).Spares x := by
  simp only [runBare]
  split
  · exact spares_createUnit x catalog _ left isLast
  · split
    · exact spares_applyClaims x _
    · split
      · exact spares_createUnit x catalog _ left isLast
      · exact spares_done x _

end Draft

open Draft in
/-- An intent that fails changes nothing. -/
theorem Intent.spares_run (catalog : Catalog) (i : Intent) (x : Draft) :
    (i.run catalog x).Spares x := by
  cases i with
  | bare arguments left isLast => exact spares_runBare x catalog arguments left isLast
  | createUnit query left isLast => exact spares_createUnit x catalog query left isLast
  | goUp count => exact spares_goUp x count
  | createSubgraph title entry exit left => exact spares_done x _
  | addPort kind name => exact spares_addPort x kind name
  | assignDefaults values => exact spares_assignDefaults x values
  | linkVariable scope access name => exact spares_linkVariable x scope access name
  | showAll query => exact spares_done x _

/-! ## What the user has been told -/

/-- The draft without the lines that the user has been told. The hint stays. -/
def Draft.muted (x : Draft) : Draft :=
  { x with feedback := { hint := x.feedback.hint } }

def Outcome.muted (o : Outcome) : Outcome :=
  ⟨o.draft.muted, o.error⟩

namespace Draft

variable (x : Draft)

@[simp] theorem muted_document : x.muted.document = x.document := rfl

@[simp] theorem muted_stack : x.muted.stack = x.stack := rfl

theorem create_muted (b : Blueprint) (left : Bool) :
    x.muted.create b left = (x.create b left).muted := by
  simp only [create, createNode, muted_document, Option.map_map]
  cases x.document.addNode _ b _ <;> rfl

theorem createUnit_muted (catalog : Catalog) (query : String) (left isLast : Bool) :
    x.muted.createUnit catalog query left isLast =
      (x.createUnit catalog query left isLast).muted := by
  simp only [createUnit, create_muted]
  split
  · rfl
  · split
    · rfl
    · rfl

theorem definePort_muted (g : GraphId) (kind : PortKind) (name : String) :
    ((x.muted.definePort g kind name).map (·.2)).getD x.muted =
      (((x.definePort g kind name).map (·.2)).getD x).muted := by
  simp only [definePort, muted_document, Option.map_map]
  cases x.document.addDefinition g _ <;> rfl

theorem addPort_muted (kind : PortKind) (name : String) :
    x.muted.addPort kind name = (x.addPort kind name).muted := by
  have hgraph : x.muted.editedGraph = x.editedGraph := rfl
  unfold addPort
  rw [hgraph, definePort_muted]
  split
  · rfl
  · rfl

theorem setDefault_muted (n : NodeId) (key : String) (v : Value) :
    x.muted.setDefault n key v = (x.setDefault n key v).muted := by
  simp only [Draft.setDefault, muted_document]
  split
  · rfl
  · rfl

theorem setClaims_muted (n : NodeId) (claims : List Claim) :
    x.muted.setClaims n claims = (x.setClaims n claims).muted := by
  induction claims generalizing x with
  | nil => rfl
  | cons c claims ih =>
    have hfirst := x.setDefault_muted n c.key c.value
    simp only [setClaims, List.foldl_cons] at ih ⊢
    rw [hfirst, ih]

theorem applyClaims_muted (claims : List Claim) :
    x.muted.applyClaims claims = (x.applyClaims claims).muted := by
  simp only [applyClaims, muted_document, setClaims_muted]
  split
  · rfl
  · rfl

theorem assignDefaults_muted (values : List String) :
    x.muted.assignDefaults values = (x.assignDefaults values).muted := by
  simp only [assignDefaults, muted_document, applyClaims_muted]
  split
  · rfl
  · rfl

theorem declareVariable_muted (scope : Scope) (g : GraphId) (name : String) (type : DataType) :
    (x.muted.declareVariable scope g name type).2 =
      (x.declareVariable scope g name type).2.muted := by
  simp only [declareVariable, muted_document]
  split
  · rfl
  · rfl

theorem placeNode_muted (g : GraphId) (b : Blueprint) (p : Point) (e : NodeId → Edge) :
    (match x.muted.placeNode g b p with
      | some (n, y) => y.join (e n)
      | none => x.muted) =
      (match x.placeNode g b p with
        | some (n, y) => y.join (e n)
        | none => x).muted := by
  simp only [placeNode, muted_document]
  cases x.document.addNode g b p <;> rfl

theorem placeAccessor_muted (scope : Scope) (access : Access) (name : String) (n : NodeId)
    (z : Node) (key : String) (type : DataType) :
    x.muted.placeAccessor scope access name n z key type =
      (x.placeAccessor scope access name n z key type).muted := by
  simp only [placeAccessor, declareVariable_muted]
  cases access with
  | set => exact placeNode_muted _ z.graph _ _ fun id => ⟨.value, n, key, id, "input"⟩
  | get => exact placeNode_muted _ z.graph _ _ fun id => ⟨.value, id, "value", n, key⟩

theorem linkVariable_muted (scope : Scope) (access : Access) (name : Option String) :
    x.muted.linkVariable scope access name = (x.linkVariable scope access name).muted := by
  simp only [linkVariable, muted_document, placeAccessor_muted]
  split
  · rfl
  · split
    · rfl
    · split
      · rfl
      · rfl

theorem popSelect_muted (count : Nat) : popSelect count x.muted = (popSelect count x).muted := by
  induction count generalizing x with
  | zero => rfl
  | succ count ih =>
    simp only [popSelect, muted_stack]
    split
    · exact ih { x with stack := x.stack.dropLast, document := x.document.select _ }
    · rfl

theorem goUp_muted (count : Nat) : x.muted.goUp count = (x.goUp count).muted := by
  have hpop := popSelect_muted { x with stack := x.stack.dropLast } (min count x.stack.length)
  unfold goUp
  by_cases h : x.stack.length ≤ 1
  · rw [muted_stack, if_pos h, if_pos h]
    rfl
  · rw [muted_stack, if_neg h, if_neg h]
    exact congrArg done hpop

theorem runBare_muted (catalog : Catalog) (arguments : List String) (left isLast : Bool) :
    x.muted.runBare catalog arguments left isLast =
      (x.runBare catalog arguments left isLast).muted := by
  simp only [runBare, muted_document, createUnit_muted, applyClaims_muted, createSubgraph,
    create_muted]
  split
  · rfl
  · split
    · rfl
    · split
      · rfl
      · rfl

end Draft

/-- What the user has been told is of no account to an intent. -/
theorem Intent.run_muted (catalog : Catalog) (i : Intent) (x : Draft) :
    (i.run catalog x.muted).muted = (i.run catalog x).muted := by
  cases i with
  | bare arguments left isLast =>
    simp only [run, Draft.runBare_muted]
    rfl
  | createUnit query left isLast =>
    simp only [run, Draft.createUnit_muted]
    rfl
  | goUp count =>
    simp only [run, Draft.goUp_muted]
    rfl
  | createSubgraph title entry exit left =>
    simp only [run, Draft.createSubgraph, Draft.create_muted]
    rfl
  | addPort kind name =>
    simp only [run, Draft.addPort_muted]
    rfl
  | assignDefaults values =>
    simp only [run, Draft.assignDefaults_muted]
    rfl
  | linkVariable scope access name =>
    simp only [run, Draft.linkVariable_muted]
    rfl
  | showAll query => rfl

/-! ## Lines -/

theorem Outcome.muted_report (o : Outcome) : o.report.muted = o.draft.muted := by
  unfold report
  split
  · split
    · rfl
    · rfl
  · rfl

theorem runAll_muted (catalog : Catalog) (is : List Intent) {x y : Draft} (h : x.muted = y.muted) :
    (runAll catalog is x).1 = (runAll catalog is y).1 ∧
      (runAll catalog is x).2.muted = (runAll catalog is y).2.muted := by
  induction is generalizing x y with
  | nil => exact ⟨rfl, h⟩
  | cons i is ih =>
    have hrun : (i.run catalog x).muted = (i.run catalog y).muted := by
      rw [← i.run_muted catalog x, h, i.run_muted catalog y]
    have herror : (i.run catalog x).error = (i.run catalog y).error := congrArg (·.error) hrun
    have hreport : (i.run catalog x).report.muted = (i.run catalog y).report.muted := by
      rw [Outcome.muted_report, Outcome.muted_report]
      exact congrArg (·.draft) hrun
    obtain ⟨hcount, hdraft⟩ := ih hreport
    simp only [runAll, herror, hcount]
    exact ⟨trivial, hdraft⟩

/-- Those of some intents that succeed when all of them are run in order. -/
def succeeding (catalog : Catalog) : List Intent → Draft → List Intent
  | [], _ => []
  | i :: is, x =>
    let o := i.run catalog x
    if o.error = none then i :: succeeding catalog is o.report else succeeding catalog is o.report

theorem succeeding_sublist (catalog : Catalog) (is : List Intent) (x : Draft) :
    (succeeding catalog is x).Sublist is := by
  induction is generalizing x with
  | nil => exact .slnil
  | cons i is ih =>
    simp only [succeeding]
    split
    · exact (ih _).cons_cons i
    · exact (ih _).cons i

/-- On their own, the intents that succeed all succeed and come to the same. -/
theorem runAll_succeeding_muted (catalog : Catalog) (is : List Intent) (x : Draft) :
    (runAll catalog (succeeding catalog is x) x).1 = 0 ∧
      (runAll catalog (succeeding catalog is x) x).2.muted = (runAll catalog is x).2.muted ∧
      (runAll catalog is x).1 + (succeeding catalog is x).length = is.length := by
  induction is generalizing x with
  | nil => exact ⟨rfl, rfl, rfl⟩
  | cons i is ih =>
    obtain ⟨hnone, hsame, hcount⟩ := ih (i.run catalog x).report
    cases herror : (i.run catalog x).error with
    | none =>
      simp only [succeeding, herror, if_true, runAll, List.length_cons, Option.toList_none,
        List.length_nil]
      exact ⟨hnone, hsame, by omega⟩
    | some e =>
      -- The draft goes on as it was, but for what the user is told.
      have hback : x.muted = (i.run catalog x).report.muted := by
        rw [Outcome.muted_report, i.spares_run catalog x e herror]
      obtain ⟨hzero, hmuted⟩ := runAll_muted catalog
        (succeeding catalog is (i.run catalog x).report) hback
      simp only [succeeding, herror, reduceCtorEq, if_false, runAll, Option.toList_some,
        List.length_cons, List.length_nil]
      exact ⟨hzero.trans hnone, hmuted.trans hsame, by omega⟩

/-- An intent that fails leaves everything as it was. So some intents leave the document, the
journal, the stack and the hint that those of them leave that succeed, run in order and without the
others; the others are counted. -/
theorem runAll_succeeding (catalog : Catalog) (is : List Intent) (x : Draft) :
    (∀ (i : Intent) e, (i.run catalog x).error = some e → (i.run catalog x).draft = x) ∧
      (succeeding catalog is x).Sublist is ∧
      (runAll catalog is x).1 + (succeeding catalog is x).length = is.length ∧
      let all := (runAll catalog is x).2
      let alone := runAll catalog (succeeding catalog is x) x
      alone.1 = 0 ∧ alone.2.document = all.document ∧ alone.2.journal = all.journal ∧
        alone.2.stack = all.stack ∧ alone.2.feedback.hint = all.feedback.hint := by
  obtain ⟨hnone, hsame, hcount⟩ := runAll_succeeding_muted catalog is x
  refine ⟨fun i => i.spares_run catalog x, succeeding_sublist catalog is x, hcount, hnone, ?_⟩
  refine ⟨?_, ?_, ?_, ?_⟩
  · exact congrArg (·.document) hsame
  · exact congrArg (·.journal) hsame
  · exact congrArg (·.stack) hsame
  · exact congrArg (·.feedback.hint) hsame

/-- Values without a node to take them, a subgraph, and a port without a name. -/
theorem runAll_succeeding_nameless :
    let x : Draft := ⟨.empty "Main", [], [], {}⟩
    let is : List Intent :=
      [.assignDefaults ["1"], .createSubgraph "Body" true true false, .addPort .valueInput ""]
    ((Intent.addPort .valueInput "").run {} x).error = some (.emptyName .valueInput) ∧
      ((Intent.addPort .valueInput "").run {} x).draft = x ∧
      succeeding {} is x = [.createSubgraph "Body" true true false] ∧
      (runAll {} is x).1 + (succeeding {} is x).length = 3 := by
  intro x is
  obtain ⟨hspares, -, hcount, -⟩ := runAll_succeeding {} is x
  exact ⟨rfl, hspares _ (.emptyName .valueInput) rfl, rfl, hcount⟩

end GraphDraft
