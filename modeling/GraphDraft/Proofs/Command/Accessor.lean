import GraphDraft.Command.Run
import GraphDraft.Proofs.Document.Gain
import GraphDraft.Proofs.Document.Variables
import GraphDraft.Proofs.Draft.Joining

/-!
# Linking a variable

A variable is linked to the first free port of the selected node that takes or gives values
(`linkedPort?_eq_some_iff`). The accessor made for it has a port of the same type, so the edge
between the two can always be made (`canConnect_accessor`). Hence linking fails only for want of a
selected node, of a free port, or of a name (`linkVariable_links`).
-/

namespace GraphDraft

namespace Document

variable {d e : Document} {n id : NodeId} {a : Node}

/-! ## The port -/

/-- The ports that a variable can be linked to: inputs for reading, outputs for writing. -/
def linkable (p : Ports) : Access → List (String × DataType)
  | .get => p.valueInputs.map fun i => (i.key, i.type)
  | .set => p.valueOutputs.map fun o => (o.key, o.type)

/-- Whether an edge uses a port that a variable could be linked to. -/
def isLinked (d : Document) (n : NodeId) : Access → String → Bool
  | .get, key => d.inputConnected n .value key
  | .set, key => d.outputConnected n .value key

/-- The port of this key and type is the first free one that a variable can be linked to. -/
def FirstFree (d : Document) (n : NodeId) (p : Ports) (access : Access) (key : String)
    (type : DataType) : Prop :=
  d.isLinked n access key = false ∧ ∃ before after,
    linkable p access = before ++ (key, type) :: after ∧
      ∀ q ∈ before, d.isLinked n access q.1 = true

theorem linkedPort?_eq_some_iff {p : Ports} {access : Access} {key : String} {type : DataType} :
    Draft.linkedPort? d n p access = some (key, type) ↔ d.FirstFree n p access key type := by
  have hfind : Draft.linkedPort? d n p access =
      (linkable p access).find? fun q => !d.isLinked n access q.1 := by
    cases access with
    | get => rw [Draft.linkedPort?, linkable, List.find?_map]; rfl
    | set => rw [Draft.linkedPort?, linkable, List.find?_map]; rfl
  rw [hfind, List.find?_eq_some_iff_append, FirstFree]
  simp

/-- The first free port is the first one of its key, since all of that key are free. -/
theorem FirstFree.find?_key {p : Ports} {access : Access} {key : String} {type : DataType}
    (h : d.FirstFree n p access key type) :
    (linkable p access).find? (·.1 = key) = some (key, type) := by
  obtain ⟨hfree, before, after, heq, hlinked⟩ := h
  refine List.find?_eq_some_iff_append.2 ⟨by simp, before, after, heq, ?_⟩
  intro q hq
  simp only [Bool.not_eq_true', decide_eq_false_iff_not]
  rintro rfl
  rw [hlinked q hq] at hfree
  cases hfree

theorem FirstFree.valueInput? {p : Ports} {key : String} {type : DataType}
    (h : d.FirstFree n p .get key type) : ∃ i, p.valueInput? key = some i ∧ i.type = type := by
  have hfind := h.find?_key
  rw [linkable, List.find?_map] at hfind
  obtain ⟨i, hi, heq⟩ := Option.map_eq_some_iff.1 hfind
  exact ⟨i, hi, congrArg Prod.snd heq⟩

theorem FirstFree.valueOutput? {p : Ports} {key : String} {type : DataType}
    (h : d.FirstFree n p .set key type) : ∃ o, p.valueOutput? key = some o ∧ o.type = type := by
  have hfind := h.find?_key
  rw [linkable, List.find?_map] at hfind
  obtain ⟨o, ho, heq⟩ := Option.map_eq_some_iff.1 hfind
  exact ⟨o, ho, congrArg Prod.snd heq⟩

/-! ## The edge -/

/-- The node that reads or writes a variable. -/
def accessor (scope : Scope) (name : String) (type : DataType) : Access → Blueprint
  | .get => Standard.getVariable scope name type
  | .set => Standard.setVariable scope name type

/-- Where the accessor of a variable goes, which is linked to a port of node `a`. -/
def accessorPosition (a : Node) : Access → Point
  | .get => a.position + Layout.leftOffset
  | .set => a.position + Layout.rightOffset a.ports

/-- The edge between accessor `id` and the port of node `n`. -/
def accessorEdge (n : NodeId) (key : String) (id : NodeId) : Access → Edge
  | .get => ⟨.value, id, "value", n, key⟩
  | .set => ⟨.value, n, key, id, "input"⟩

theorem accessorEdge_ends (n : NodeId) (key : String) (id : NodeId) (access : Access) :
    (accessorEdge n key id access).source = id ∨ (accessorEdge n key id access).target = id := by
  cases access with
  | get => exact .inl rfl
  | set => exact .inr rfl

/-- An accessor has no body, so it is the same in any document. -/
theorem newNode_accessor (d e : Document) {g : GraphId} {scope : Scope} {name : String}
    {type : DataType} {access : Access} {p : Point} :
    d.newNode g (accessor scope name type access) p =
      e.newNode g (accessor scope name type access) p := by
  cases access <;> rfl

/-- A new accessor can always be joined to the port that the variable is linked to. -/
theorem canConnect_accessor (hv : d.Valid) (hn : d.node? n = some a) {access : Access}
    {key : String} {type : DataType} (hport : d.FirstFree n a.ports access key type) {scope : Scope}
    {name : String} {p : Point}
    (h : d.Gains id (d.newNode a.graph (accessor scope name type access) p) [] e) :
    e.canConnect (accessorEdge n key id access) = true := by
  have hne : n ≠ id := by
    rintro rfl
    rw [h.new] at hn
    cases hn
  have hanchor := h.node?_of_some hn
  have haround := h.edgesAround hn
  have hfree := hport.1
  have haccepts : type.accepts type = true := DataType.accepts_iff.2 (.inr rfl)
  cases access with
  | get =>
    obtain ⟨i, hi, rfl⟩ := hport.valueInput?
    refine canConnect_iff.2 ⟨_, a, h.node?_self, hanchor, hne.symm, rfl, ?_,
      (h.free_new hv .value "value").1, ?_⟩
    · exact portsMatch_value_iff.2 ⟨_, i, rfl, hi, haccepts⟩
    · show e.inputConnected n .value key = false
      rw [inputConnected, haround]
      exact hfree
  | set =>
    obtain ⟨o, ho, rfl⟩ := hport.valueOutput?
    refine canConnect_iff.2 ⟨a, _, hanchor, h.node?_self, hne, rfl, ?_, ?_,
      (h.free_new hv .value "input").2⟩
    · exact portsMatch_value_iff.2 ⟨o, ⟨"input", o.type, none⟩, ho, rfl, haccepts⟩
    · show e.outputConnected n .value key = false
      rw [outputConnected, haround]
      exact hfree

end Document

/-! ## Linking in a draft -/

namespace Draft

open Document

variable {x y : Draft} {n id : NodeId} {a : Node} {access : Access} {scope : Scope}
  {key name : String} {type : DataType}

/-- Declaring a variable changes nothing else than the variable, and that only if it is new. -/
structure Declares (x : Draft) (scope : Scope) (g : GraphId) (name : String) (type : DataType)
    (y : Draft) : Prop where
  nodes : y.document.nodes = x.document.nodes
  listing : y.document.listing? = x.document.listing?
  edges : y.document.edges? = x.document.edges?
  selection : y.document.selection = x.document.selection
  value : ∀ s k m, y.document.value? s k m = if s = scope ∧ (s = .graph → k = g) ∧ m = name then
    some ((x.document.value? scope g name).getD (.zero type)) else x.document.value? s k m
  rest : y = { x with
    document := y.document
    journal := x.journal ++
      [.variableDeclared scope g name (x.document.value? scope g name).isSome] }

theorem declareVariable_declares {g : GraphId} {vs : Declarations}
    (hvs : x.document.declarations? scope g = some vs) (name : String) (type : DataType) :
    x.Declares scope g name type (x.declareVariable scope g name type).2 := by
  have hvalue : x.document.value? scope g name = vs.get? name := by rw [value?, hvs]; rfl
  have hdeclare : (x.declareVariable scope g name type).2 = { x with
      document := x.document.modifyVariables scope g fun vs =>
        if vs.contains name then vs else vs.put name (.zero type)
      journal := x.journal ++ [.variableDeclared scope g name (vs.contains name)] } := by
    rw [declareVariable, hvs]
    rfl
  rw [hdeclare]
  refine ⟨nodes_modifyVariables .., listing?_modifyVariables .., edges?_modifyVariables .., ?_,
    value?_declare hvs name _, by rw [hvalue]; rfl⟩
  cases scope <;> rfl

/-- Linking variable `name` to the port `key` of node `n`, which is `a`, has made `y` of `x`: there
is an accessor `id` joined to the port, the variable has a value, and both are noted. -/
structure Links (x : Draft) (scope : Scope) (access : Access) (name : String) (n : NodeId)
    (a : Node) (key : String) (type : DataType) (id : NodeId) (y : Draft) : Prop where
  gains : x.document.Gains id
    (x.document.newNode a.graph (accessor scope name type access) (accessorPosition a access))
    [accessorEdge n key id access] y.document
  value : ∀ s g m, y.document.value? s g m =
    if s = scope ∧ (s = .graph → g = a.graph) ∧ m = name then
      some ((x.document.value? scope a.graph name).getD (.zero type))
    else x.document.value? s g m
  selection : y.document.selection = x.document.selection
  rest : y = { x with
    document := y.document
    journal := x.journal ++ [.variableDeclared scope a.graph name
      (x.document.value? scope a.graph name).isSome, .nodeCreated id] }

theorem placeAccessor_eq (x : Draft) (scope : Scope) (access : Access) (name : String) (n : NodeId)
    (a : Node) (key : String) (type : DataType) :
    x.placeAccessor scope access name n a key type =
      match (x.declareVariable scope a.graph name type).2.placeNode a.graph
        (accessor scope name type access) (accessorPosition a access) with
      | some (id, y) => y.join (accessorEdge n key id access)
      | none => (x.declareVariable scope a.graph name type).2 := by
  cases access <;> rfl

theorem Declares.gains {g : GraphId} {z : Node} {cs : List Edge} {d : Document}
    (h : x.Declares scope g name type y) (hgains : y.document.Gains id z cs d) :
    x.document.Gains id z cs d := by
  refine hgains.of_views h.nodes ?_ ?_
  · funext k
    rw [listed_eq, h.listing, listed_eq]
  · funext k
    rw [edgesIn, h.edges, edgesIn]

theorem placeAccessor_links (h : x.document.Reachable) (hn : x.document.node? n = some a)
    (hport : x.document.FirstFree n a.ports access key type) (scope : Scope) (name : String) :
    ∃ id, x.Links scope access name n a key type id
      (x.placeAccessor scope access name n a key type) := by
  obtain ⟨o, ns, hl, -⟩ := h.valid.tree.home (place?_of_node? hn)
  obtain ⟨vs, hvs⟩ := exists_declarations hl scope
  have hdeclares := declareVariable_declares hvs name type
  have hv := (reachable_declareVariable h scope a.graph name type).valid
  rw [placeAccessor_eq]
  set y := (x.declareVariable scope a.graph name type).2
  set b := accessor scope name type access
  set p := accessorPosition a access
  -- the accessor is added to what declaring leaves; that is a gain over what there was before
  have hg : y.document.graphs.contains a.graph = true :=
    contains_graph_iff.2 ⟨o, ns, hdeclares.listing ▸ hl⟩
  have hgrown := hdeclares.gains (.grown hv hg b p)
  rw [newNode_accessor y.document x.document] at hgrown
  have hcan := canConnect_accessor h.valid hn hport hgrown
  have happends := appends_addEdge hcan
  refine ⟨⟨y.document.nextNode⟩, ?_⟩
  rw [placeNode, addNode_eq hv hg]
  show x.Links scope access name n a key type _ (Draft.join _ _)
  rw [join, record, connect, if_pos hcan]
  refine ⟨hgrown.addEdge (accessorEdge_ends ..) hcan, fun s g m => ?_, ?_, ?_⟩
  · show ((y.document.grown a.graph b p).addEdge _).value? s g m = _
    rw [happends.value?, value?_grown hv hg, hdeclares.value]
  · exact happends.selection.trans hdeclares.selection
  · rw [hdeclares.rest]
    simp

/-- The name of a variable that is named after a port. -/
def portName (key : String) : String :=
  String.ofList (key.toList.filter (· ∉ "%`_<>".toList))

theorem derivedName_eq (key : String) : derivedName key = portName key := by
  rw [derivedName, portName]
  congr 1
  refine List.filter_congr fun c _ => ?_
  simp [isForbidden, Bool.and_assoc]

theorem linkVariable_of_port (hn : x.document.selection.head? = some n)
    (ha : x.document.node? n = some a) (hport : x.document.FirstFree n a.ports access key type)
    {name : Option String} (hname : name.getD (portName key) ≠ "") :
    x.linkVariable scope access name =
      (x.placeAccessor scope access (name.getD (portName key)) n a key type).done := by
  rw [linkVariable, anchor?_eq_some_iff.2 ⟨hn, ha⟩]
  simp only [linkedPort?_eq_some_iff.2 hport, derivedName_eq, if_neg hname]

theorem exists_port_of_linkVariable {name : Option String}
    (h : (x.linkVariable scope access name).error = none) :
    ∃ n a key type, x.document.selection.head? = some n ∧ x.document.node? n = some a ∧
      x.document.FirstFree n a.ports access key type ∧ name.getD (portName key) ≠ "" := by
  rw [linkVariable] at h
  cases hanchor : x.document.anchor? with
  | none => rw [hanchor] at h; cases h
  | some r =>
    obtain ⟨n, a⟩ := r
    obtain ⟨hn, ha⟩ := anchor?_eq_some_iff.1 hanchor
    rw [hanchor] at h
    cases hport : linkedPort? x.document n a.ports access with
    | none => simp only [hport] at h; cases h
    | some q =>
      obtain ⟨key, type⟩ := q
      simp only [hport, derivedName_eq] at h
      refine ⟨n, a, key, type, hn, ha, linkedPort?_eq_some_iff.1 hport, fun hempty => ?_⟩
      rw [if_pos hempty] at h
      cases h

/-- A variable is linked just if a node is selected, one of its ports is free, and there is a name,
given or left of the key of the first free port. Then one accessor is added to the graph of the
selected node and joined to that port, and the variable keeps its value or gets the first one of its
type; no other variable changes. Both are noted, and selection and stack stay. -/
theorem linkVariable_links (h : x.document.Reachable) (scope : Scope) (access : Access)
    (name : Option String) :
    ((x.linkVariable scope access name).error = none ↔ ∃ n a key type,
      x.document.selection.head? = some n ∧ x.document.node? n = some a ∧
        x.document.FirstFree n a.ports access key type ∧ name.getD (portName key) ≠ "") ∧
    ∀ n a key type, x.document.selection.head? = some n → x.document.node? n = some a →
      x.document.FirstFree n a.ports access key type → name.getD (portName key) ≠ "" →
      ∃ id, x.Links scope access (name.getD (portName key)) n a key type id
        (x.linkVariable scope access name).draft := by
  constructor
  · refine ⟨exists_port_of_linkVariable, ?_⟩
    rintro ⟨n, a, key, type, hn, ha, hport, hname⟩
    rw [linkVariable_of_port hn ha hport hname]
    rfl
  · intro n a key type hn ha hport hname
    rw [linkVariable_of_port hn ha hport hname]
    exact placeAccessor_links h ha hport scope _

/-- A node with two inputs of a key, selected. -/
def moving : Document :=
  Operation.runAll
    [.addNode .root
       { kind := .unit "Mover", title := "Mover"
         ports := { valueInputs := [⟨"%speed", .float, none⟩, ⟨"%speed", .int, none⟩] } } .origin,
     .select (some ⟨0⟩)]
    (.empty "Main")

/-- The variable is named after the input, and is of the type of the first one of that key. -/
theorem linkVariable_links_moving :
    let x : Draft := ⟨moving, [], [], {}⟩
    let o := x.linkVariable .graph .get none
    o.error = none ∧ ∃ a id, x.Links .graph .get "speed" ⟨0⟩ a "%speed" .float id o.draft := by
  have hreachable : moving.Reachable := ⟨"Main", _, rfl⟩
  obtain ⟨a, ha⟩ : ∃ a, moving.node? ⟨0⟩ = some a := ⟨_, rfl⟩
  have hport : moving.FirstFree ⟨0⟩ a.ports .get "%speed" .float := by
    cases ha
    exact ⟨rfl, [], _, rfl, by simp⟩
  have hname : portName "%speed" = "speed" := by decide
  have hall := linkVariable_links (x := ⟨moving, [], [], {}⟩) hreachable .graph .get none
  have hgiven : (none : Option String).getD (portName "%speed") ≠ "" := by decide
  obtain ⟨id, hlinks⟩ := hall.2 ⟨0⟩ a "%speed" .float rfl ha hport hgiven
  rw [Option.getD_none, hname] at hlinks
  exact ⟨hall.1.2 ⟨⟨0⟩, a, "%speed", .float, rfl, ha, hport, hgiven⟩, a, id, hlinks⟩

end Draft

end GraphDraft
