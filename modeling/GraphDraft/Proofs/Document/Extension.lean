import GraphDraft.Proofs.Document.Undo
import GraphDraft.Proofs.Draft.Wiring

/-!
# Extending a document

`Extends new d e` says that `e` has all that `d` has, unchanged and in the same order, with what has
been added behind it, and that the edges which have been added are of the kind `new`. Of a node of
`d` only the values that its inputs hold may be others and, if it is a composite, its ports. The
operations that lines are made of extend documents; whatever becomes of a node that `d` does not
have is of no account.
-/

namespace GraphDraft

/-! ## Ports but for the values that they hold -/

/-- The input with a neutral value in place of the one that it holds. -/
def ValueInput.cleared (i : ValueInput) : ValueInput :=
  { i with default := i.default.map fun _ => .null }

/-- The ports with neutral values in place of those that the inputs hold. -/
def Ports.cleared (p : Ports) : Ports :=
  { p with valueInputs := p.valueInputs.map (·.cleared) }

theorem Document.map_cleared_fill {key : String} {v w : Value} :
    ∀ {is : List ValueInput}, (is.find? (·.key = key)).bind (·.default) = some w →
      (fill key v is).map (·.cleared) = is.map (·.cleared)
  | [], h => by cases h
  | i :: is, h => by
    by_cases hi : i.key = key
    · rw [List.find?_cons_of_pos (by simpa using hi)] at h
      have hw : i.default = some w := h
      rw [fill, if_pos hi]
      simp [ValueInput.cleared, hw]
    · rw [List.find?_cons_of_neg (by simpa using hi)] at h
      rw [fill, if_neg hi, List.map_cons, map_cleared_fill h, List.map_cons]

/-! ## Nodes, graphs and documents -/

/-- The same node, but for the values that its inputs hold and, if it is a composite, its ports. -/
structure Node.Extends (x y : Node) : Prop where
  graph : y.graph = x.graph
  kind : y.kind = x.kind
  title : y.title = x.title
  position : y.position = x.position
  body : y.body = x.body
  ports : x.body = none → y.ports.cleared = x.ports.cleared

/-- The same graph with nodes, edges, definitions and variables added behind those that there
were. -/
structure Graph.Extends (new : Edge → Prop) (x y : Graph) : Prop where
  title : y.title = x.title
  owner : y.owner = x.owner
  nodes : x.nodes <+: y.nodes
  edges : ∃ cs, y.edges = x.edges ++ cs ∧ ∀ c ∈ cs, new c
  definitions : x.definitions <+: y.definitions
  declarations : x.declarations.entries <+: y.declarations.entries

theorem Node.Extends.refl (x : Node) : x.Extends x := ⟨rfl, rfl, rfl, rfl, rfl, fun _ => rfl⟩

theorem Node.Extends.trans {x y z : Node} (h : x.Extends y) (k : y.Extends z) : x.Extends z where
  graph := k.graph.trans h.graph
  kind := k.kind.trans h.kind
  title := k.title.trans h.title
  position := k.position.trans h.position
  body := k.body.trans h.body
  ports hb := (k.ports (h.body.trans hb)).trans (h.ports hb)

namespace Graph.Extends

variable {new : Edge → Prop} {x y z : Graph}

theorem refl (new : Edge → Prop) (x : Graph) : x.Extends new x where
  title := rfl
  owner := rfl
  nodes := List.prefix_rfl
  edges := ⟨[], (List.append_nil _).symm, fun _ hc => absurd hc List.not_mem_nil⟩
  definitions := List.prefix_rfl
  declarations := List.prefix_rfl

theorem trans (h : x.Extends new y) (k : y.Extends new z) : x.Extends new z where
  title := k.title.trans h.title
  owner := k.owner.trans h.owner
  nodes := h.nodes.trans k.nodes
  edges := by
    obtain ⟨cs, hy, hcs⟩ := h.edges
    obtain ⟨ds, hz, hds⟩ := k.edges
    refine ⟨cs ++ ds, by rw [hz, hy, List.append_assoc], fun c hc => ?_⟩
    rcases List.mem_append.1 hc with hc | hc
    · exact hcs c hc
    · exact hds c hc
  definitions := h.definitions.trans k.definitions
  declarations := h.declarations.trans k.declarations

end Graph.Extends

namespace Document

/-- The document `e` is `d` with something added to it (module doc). -/
structure Extends (new : Edge → Prop) (d e : Document) : Prop where
  node : ∀ ⦃n x⦄, d.node? n = some x → ∃ y, e.node? n = some y ∧ x.Extends y
  graph : ∀ ⦃g x⦄, d.graph? g = some x → ∃ y, e.graph? g = some y ∧ x.Extends new y
  newGraph : ∀ ⦃g y⦄, d.graph? g = none → e.graph? g = some y → ∀ c ∈ y.edges, new c
  objectVariables : d.objectVariables.entries <+: e.objectVariables.entries
  sceneVariables : d.sceneVariables.entries <+: e.sceneVariables.entries
  applicationVariables : d.applicationVariables.entries <+: e.applicationVariables.entries
  savedVariables : d.savedVariables.entries <+: e.savedVariables.entries

namespace Extends

variable {new : Edge → Prop} {d e f : Document}

theorem refl (new : Edge → Prop) (d : Document) : d.Extends new d where
  node _ x hn := ⟨x, hn, .refl x⟩
  graph _ x hg := ⟨x, hg, .refl new x⟩
  newGraph _ _ hn hg := by
    rw [hn] at hg
    cases hg
  objectVariables := List.prefix_rfl
  sceneVariables := List.prefix_rfl
  applicationVariables := List.prefix_rfl
  savedVariables := List.prefix_rfl

theorem of_same (h : e.Same d) : d.Extends new e :=
  { refl new d with
    node := fun n x hn => ⟨x, by rw [h.node?]; exact hn, .refl x⟩
    graph := fun g x hg => ⟨x, by rw [h.graph?]; exact hg, .refl new x⟩
    newGraph := fun g y hn hg => by
      rw [h.graph?, hn] at hg
      cases hg
    objectVariables := h.objectVariables ▸ List.prefix_rfl
    sceneVariables := h.sceneVariables ▸ List.prefix_rfl
    applicationVariables := h.applicationVariables ▸ List.prefix_rfl
    savedVariables := h.savedVariables ▸ List.prefix_rfl }

section
variable (h : d.Extends new e)
include h

/-- It is enough to look at the edges that there are. -/
theorem imp {new' : Edge → Prop}
    (hnew : ∀ ⦃g es⦄, e.edges? g = some es → ∀ c ∈ es, new c → new' c) : d.Extends new' e :=
  { h with
    graph := fun g x hg => by
      obtain ⟨y, hy, hxy⟩ := h.graph hg
      obtain ⟨cs, hcs, hall⟩ := hxy.edges
      refine ⟨y, hy, { hxy with edges := ⟨cs, hcs, fun c hc => ?_⟩ }⟩
      refine hnew (edges?_of_graph? hy) c ?_ (hall c hc)
      rw [hcs]
      exact List.mem_append_right _ hc
    newGraph := fun g y hn hg c hc =>
      hnew (edges?_of_graph? hg) c hc (h.newGraph hn hg c hc) }

theorem node?_eq_none {n : NodeId} (hn : e.node? n = none) : d.node? n = none := by
  cases hd : d.node? n with
  | none => rfl
  | some x =>
    obtain ⟨y, hy, -⟩ := h.node hd
    rw [hn] at hy
    cases hy

/-! ## Operations -/

theorem touch : d.Extends new e.touch := { h with }

theorem setSelection (ns : List NodeId) : d.Extends new (e.setSelection ns) := { h with }

/-- A node may be changed as long as it is the same node afterwards, if `d` has it at all. -/
theorem mapNode {n : NodeId} {f : Node → Node}
    (hf : ∀ x y, d.node? n = some x → e.node? n = some y → y.Extends (f y)) :
    d.Extends new { e with nodes := e.nodes.modify n f } :=
  { h with
    node := fun m x hm => by
      obtain ⟨y, hy, hxy⟩ := h.node hm
      have hmodify : Document.node? { e with nodes := e.nodes.modify n f } m =
          if m = n then (e.node? m).map f else e.node? m := Store.get?_modify ..
      rw [hmodify, hy]
      split
      · subst m
        exact ⟨f y, rfl, hxy.trans (hf x y hm hy)⟩
      · exact ⟨y, rfl, hxy⟩ }

/-- A graph may get more behind what it has. -/
theorem mapGraph {g : GraphId} {f : Graph → Graph}
    (hf : ∀ y, e.graph? g = some y → y.Extends new (f y)) :
    d.Extends new { e with graphs := e.graphs.modify g f } := by
  have hmodify : ∀ k, Document.graph? { e with graphs := e.graphs.modify g f } k =
      if k = g then (e.graph? k).map f else e.graph? k := fun _ => Store.get?_modify ..
  refine { h with graph := fun k x hk => ?_, newGraph := fun k z hk hz => ?_ }
  · obtain ⟨y, hy, hxy⟩ := h.graph hk
    rw [hmodify, hy]
    split
    · subst k
      exact ⟨f y, rfl, hxy.trans (hf y hy)⟩
    · exact ⟨y, rfl, hxy⟩
  · rw [hmodify] at hz
    split at hz
    · subst k
      obtain ⟨y, hy, rfl⟩ := Option.map_eq_some_iff.1 hz
      obtain ⟨cs, hcs, hall⟩ := (hf y hy).edges
      intro c hc
      rw [hcs] at hc
      rcases List.mem_append.1 hc with hc | hc
      · exact h.newGraph hk hy c hc
      · exact hall c hc
    · exact h.newGraph hk hz

/-- A node that `d` does not have may be moved. -/
theorem setPosition {n : NodeId} (hn : d.node? n = none) (p : Point) :
    d.Extends new (e.setPosition n p) := by
  rw [Document.setPosition]
  split
  · refine touch (h.mapNode fun x y hx => ?_)
    rw [hn] at hx
    cases hx
  · exact h

theorem addEdge {c : Edge} (hc : new c) : d.Extends new (e.addEdge c) := by
  rw [Document.addEdge]
  split
  · refine touch (h.mapGraph fun y _ => ?_)
    refine { Graph.Extends.refl new y with edges := ⟨[c], rfl, fun b hb => ?_⟩ }
    rw [List.mem_singleton.1 hb]
    exact hc
  · exact h

theorem connect {c : Edge} (hc : new c) : d.Extends new (e.connect c) := by
  rw [Document.connect]
  split
  · exact h.addEdge hc
  · exact h

theorem setDefault (n : NodeId) (key : String) (v : Value) :
    d.Extends new (e.setDefault n key v) := by
  rw [Document.setDefault]
  split
  · rename_i hv
    obtain ⟨w, hw⟩ := Option.isSome_iff_exists.1 hv
    obtain ⟨z, i, hz, hi, hiw⟩ := heldValue?_eq_some hw
    refine touch (h.mapNode fun x y _ hy => ?_)
    cases hz.symm.trans hy
    refine { Node.Extends.refl z with ports := fun _ => ?_ }
    have hfind : z.ports.valueInputs.find? (·.key = key) = some i := hi
    have hfill := map_cleared_fill (v := v) (by rw [hfind]; exact hiw)
    simp only [Ports.cleared, hfill]
  · exact h

theorem modifyVariables (scope : Scope) (g : GraphId) {p : Declarations → Declarations}
    (hp : ∀ vs, vs.entries <+: (p vs).entries) : d.Extends new (e.modifyVariables scope g p) := by
  cases scope with
  | graph =>
    exact touch (h.mapGraph fun y _ => { Graph.Extends.refl new y with declarations := hp _ })
  | object => exact { h with objectVariables := h.objectVariables.trans (hp _) }
  | scene => exact { h with sceneVariables := h.sceneVariables.trans (hp _) }
  | application => exact { h with applicationVariables := h.applicationVariables.trans (hp _) }
  | saved => exact { h with savedVariables := h.savedVariables.trans (hp _) }

/-- A new node is none of those that there were, and its body has no edges. -/
theorem addNode (he : e.Valid) {g : GraphId} {b : Blueprint} {p : Point} {n : NodeId}
    (ha : e.addNode g b p = some (n, f)) : d.Extends new f := by
  obtain ⟨hg, rfl, rfl, -⟩ := he.addNode ha
  refine { h with node := fun m x hm => ?_, graph := fun k x hk => ?_, newGraph := ?_ }
  · obtain ⟨y, hy, hxy⟩ := h.node hm
    refine ⟨y, ?_, hxy⟩
    rw [node?_grown, if_neg, hy]
    rintro rfl
    rw [he.node?_new] at hy
    cases hy
  · obtain ⟨y, hy, hxy⟩ := h.graph hk
    have hne : k ≠ ⟨e.nextGraph⟩ := by
      rintro rfl
      rw [he.graph?_new] at hy
      cases hy
    rw [graph?_grown he hg, if_neg hne, hy]
    split
    · exact ⟨_, rfl, { hxy with nodes := hxy.nodes.trans (List.prefix_append _ _) }⟩
    · exact ⟨y, rfl, hxy⟩
  · intro k y hk hy
    rw [graph?_grown he hg] at hy
    split at hy
    · obtain ⟨plan, -, rfl⟩ := Option.map_eq_some_iff.1 hy
      exact fun c hc => absurd hc List.not_mem_nil
    · split at hy
      · obtain ⟨z, hz, rfl⟩ := Option.map_eq_some_iff.1 hy
        exact h.newGraph (y := z) hk hz
      · exact h.newGraph hk hy

/-- A new definition changes the ports of a composite and drops no edge. -/
theorem addDefinition (he : e.Valid) {g : GraphId} {p : PortPlan} {id : DefinitionId}
    (ha : e.addDefinition g p = some (id, f)) : d.Extends new f := by
  rw [Document.addDefinition] at ha
  split at ha
  · cases ha
    have hv := he.skipDefinition
    set e' : Document := { e with nextDefinition := e.nextDefinition + 1 }
    have hext : d.Extends new e' := { h with }
    have hdefs : d.Extends new (e'.mapDefinitions g (· ++ [p.define ⟨e.nextDefinition⟩])) :=
      hext.mapGraph fun y _ =>
        { Graph.Extends.refl new y with definitions := List.prefix_append _ _ }
    by_cases ho : ∃ n ns, e'.listing? g = some (some n, ns)
    · obtain ⟨n, ns, hl⟩ := ho
      obtain ⟨k, -, ds, hn, -, hds, -⟩ := hv.exists_owner hl
      obtain ⟨hin, hout⟩ := keys_subset_of_subset
        (List.subset_append_left ds [p.define ⟨e.nextDefinition⟩])
      rw [hv.editDefinitions_of_keys hl hds hin hout]
      refine touch (hdefs.mapNode fun _ z _ hz => ?_)
      have hzb : z.body = some g := by
        have hplace : e'.place? n = some (z.graph, z.body) := place?_of_node? hz
        exact (Prod.mk.inj (Option.some.inj (hn.symm.trans hplace))).2.symm
      exact { Node.Extends.refl z with ports := fun hnone => by rw [hzb] at hnone; cases hnone }
    · rw [editDefinitions_of_unowned fun n ns hl => ho ⟨n, ns, hl⟩]
      exact hdefs.touch
  · cases ha

end

/-! ## Changes of drafts -/

section
variable {x y : Draft} (h : d.Extends new x.document)
include h

theorem declareVariable (scope : Scope) (g : GraphId) (name : String) (type : DataType) :
    d.Extends new (x.declareVariable scope g name type).2.document := by
  rw [Draft.declareVariable]
  split
  · refine h.modifyVariables scope g fun vs => ?_
    split
    · exact List.prefix_rfl
    · rename_i hc
      have hnew : vs.get? name = none := by simpa [Store.contains] using hc
      rw [Store.put, Store.putEntry_of_new _ (Store.get?_eq_none_iff.1 hnew)]
      exact List.prefix_append _ _
  · exact h.touch

theorem fill (n : NodeId) (key : String) (v : Value) :
    d.Extends new (x.setDefault n key v).document := by
  rw [Draft.setDefault]
  split
  · exact h.setDefault n key v
  · exact h

section
variable (hv : x.document.Valid)
include hv

theorem definePort {g : GraphId} {kind : PortKind} {name : String} {id : DefinitionId}
    (hp : x.definePort g kind name = some (id, y)) : d.Extends new y.document := by
  obtain ⟨⟨i, e⟩, ha, hy⟩ := Option.map_eq_some_iff.1 hp
  cases hy
  exact h.addDefinition hv ha

/-- A node that has just been added is none of those that `d` has. -/
theorem node?_new {g : GraphId} {b : Blueprint} {p : Point} {n : NodeId}
    (ha : x.document.addNode g b p = some (n, e)) : d.node? n = none := by
  obtain ⟨-, rfl, -⟩ := hv.addNode ha
  exact h.node?_eq_none hv.node?_new

theorem placeNode {g : GraphId} {b : Blueprint} {p : Point} {n : NodeId}
    (hp : x.placeNode g b p = some (n, y)) : d.node? n = none ∧ d.Extends new y.document := by
  obtain ⟨⟨m, e⟩, ha, hy⟩ := Option.map_eq_some_iff.1 hp
  cases hy
  exact ⟨h.node?_new hv ha, h.addNode hv ha⟩

theorem createNode (hnew : ∀ c, d.node? c.source = none ∨ d.node? c.target = none → new c)
    {b : Blueprint} {left : Bool} {n : NodeId}
    (hc : x.createNode b left = some (n, y)) : d.Extends new y.document := by
  obtain ⟨⟨m, e⟩, ha, hy⟩ := Option.map_eq_some_iff.1 hc
  have hn : d.node? n = none := by
    cases hy
    exact h.node?_new hv ha
  refine createNode_induction hc (fun ha => h.addNode hv ha) (fun he => he.setPosition hn _) ?_
    fun he => he.setSelection _
  intro e c he hc _
  refine he.addEdge (hnew c ?_)
  rcases hc with rfl | rfl
  · exact .inl hn
  · exact .inr hn

end

end

end Extends

end Document

end GraphDraft
