import GraphDraft.Proofs.Draft.Mutation

/-!
# What making edges leaves

A document in which some edges have been made is the document before with those edges behind the
others of their graphs, and nothing else about it is different (`Makes.appends`). Every edge takes
two ports. So an edge that can be made afterwards could be made before (`Appends.canConnect`), and
none can be made from an output that an edge starts at (`canConnect_of_hasEdge`).
-/

namespace GraphDraft.Document

variable {d e f : Document} {b c : Edge} {cs bs : List Edge}

/-! ## The document with the edges -/

/-- Whether an edge starts at a node of a graph. -/
def startsIn (d : Document) (g : GraphId) (c : Edge) : Bool :=
  (d.node? c.source).any (·.graph = g)

/-- The document `e` is `d` with the edges `cs`, in order, each behind the edges that there were in
the graph of its source. -/
structure Appends (d : Document) (cs : List Edge) (e : Document) : Prop where
  graph : ∀ g, e.graph? g = (d.graph? g).map fun x =>
    { x with edges := x.edges ++ cs.filter (d.startsIn g) }
  graphs : e.graphs.keys = d.graphs.keys
  revision : e.revision = d.revision + cs.length
  rest : { e with graphs := d.graphs, revision := d.revision } = d

namespace Appends

theorem refl (d : Document) : d.Appends [] d where
  graph g := by simp
  graphs := rfl
  revision := rfl
  rest := rfl

section
variable (h : d.Appends cs e)
include h

theorem nodes : e.nodes = d.nodes := by
  rw [← h.rest]

theorem selection : e.selection = d.selection := by
  rw [← h.rest]

theorem node? : e.node? = d.node? := by
  funext n
  rw [Document.node?, h.nodes, Document.node?]

theorem edges? (g : GraphId) : e.edges? g = (d.edges? g).map (· ++ cs.filter (d.startsIn g)) := by
  rw [Document.edges?, h.graph, Document.edges?, Option.map_map, Option.map_map]
  rfl

theorem trans (k : e.Appends bs f) : d.Appends (cs ++ bs) f where
  graph g := by
    have hstarts : e.startsIn g = d.startsIn g := by
      funext c
      rw [startsIn, h.node?, startsIn]
    rw [k.graph, h.graph, Option.map_map, hstarts, List.filter_append]
    congr 1
    funext x
    simp
  graphs := k.graphs.trans h.graphs
  revision := by rw [k.revision, h.revision, List.length_append, Nat.add_assoc]
  rest := by
    calc { f with graphs := d.graphs, revision := d.revision }
        = { ({ f with graphs := e.graphs, revision := e.revision } : Document) with
            graphs := d.graphs, revision := d.revision } := rfl
      _ = { e with graphs := d.graphs, revision := d.revision } := by rw [k.rest]
      _ = d := h.rest

end

end Appends

theorem appends_addEdge (hc : d.canConnect c = true) : d.Appends [c] (d.addEdge c) := by
  obtain ⟨s, t, hs, -⟩ := canConnect_iff.1 hc
  have hadd : d.addEdge c = (d.mapEdges s.graph (· ++ [c])).touch := by rw [addEdge, hs]
  rw [hadd]
  refine ⟨fun g => ?_, keys_mapEdges d s.graph (· ++ [c]), rfl, rfl⟩
  have hget : (d.mapEdges s.graph (· ++ [c])).touch.graph? g = if g = s.graph then
      (d.graph? g).map fun x => { x with edges := x.edges ++ [c] } else d.graph? g :=
    Store.get?_modify ..
  rw [hget]
  by_cases hg : g = s.graph
  · simp [startsIn, hs, hg]
  · simp [startsIn, hs, hg, Ne.symm hg]

namespace Makes

theorem appends (hm : Makes d cs e) : d.Appends cs e := by
  induction hm with
  | nil => exact .refl _
  | cons hcan _ ih => exact (appends_addEdge hcan).trans ih

theorem eq_addEdges (hm : Makes d cs e) : e = d.addEdges cs := by
  induction hm with
  | nil => rfl
  | cons _ _ ih => exact ih

end Makes

/-! ## Ports that are taken -/

theorem edgesAround_of_node? {n : NodeId} {x : Node} (hn : d.node? n = some x) :
    d.edgesAround n = (d.edges? x.graph).getD [] := by
  rw [edgesAround, hn]
  rfl

theorem edgesAround_eq (d : Document) (n : NodeId) :
    d.edgesAround n = ((d.place? n).bind fun x => d.edges? x.1).getD [] := by
  rw [edgesAround, place?, Option.bind_map]
  rfl

/-- Edges depend on which nodes, ports and edges there are. -/
theorem canConnect_of_views (hplace : d.place? = e.place?) (hports : d.ports? = e.ports?)
    (hedges : d.edges? = e.edges?) (hc : d.canConnect c = true) : e.canConnect c = true := by
  have haround : d.edgesAround = e.edgesAround := by
    funext n
    rw [edgesAround_eq, hplace, hedges, edgesAround_eq]
  have hnode : ∀ {n s}, d.node? n = some s →
      ∃ s', e.node? n = some s' ∧ s'.graph = s.graph ∧ s'.ports = s.ports := by
    intro n s hs
    obtain ⟨s', hs', hgraph, -⟩ := node?_of_place? (hplace ▸ place?_of_node? hs)
    have hp : e.ports? n = some s.ports := hports ▸ ports?_of_node? hs
    rw [ports?_of_node? hs'] at hp
    exact ⟨s', hs', hgraph, Option.some.inj hp⟩
  obtain ⟨s, t, hs, ht, hne, hg, hm, ho, hi⟩ := canConnect_iff.1 hc
  obtain ⟨s', hs', hsg, hsp⟩ := hnode hs
  obtain ⟨t', ht', htg, htp⟩ := hnode ht
  rw [outputConnected, haround] at ho
  rw [inputConnected, haround] at hi
  exact canConnect_iff.2 ⟨s', t', hs', ht', hne, hsg.trans (hg.trans htg.symm),
    by rw [hsp, htp]; exact hm, ho, hi⟩

/-- The output of an edge that is there is taken. -/
theorem canConnect_of_hasEdge (h : d.hasEdge c = true) (hkind : b.kind = c.kind)
    (hsource : b.source = c.source) (houtput : b.output = c.output) : d.canConnect b = false := by
  have hout : d.outputConnected b.source b.kind b.output = true := by
    rw [hasEdge, List.contains_iff_mem] at h
    rw [outputConnected, hsource]
    exact List.any_eq_true.2 ⟨c, h, by simp [hkind, houtput]⟩
  rw [← Bool.not_eq_true]
  intro hcan
  obtain ⟨-, -, -, -, -, -, -, hfree, -⟩ := canConnect_iff.1 hcan
  rw [hout] at hfree
  cases hfree

namespace Appends

variable (h : d.Appends cs e)
include h

theorem mem_edgesAround {n : NodeId} (hb : b ∈ d.edgesAround n) : b ∈ e.edgesAround n := by
  cases hn : d.node? n with
  | none => simp [edgesAround, hn] at hb
  | some x =>
    have hn' : e.node? n = some x := by rw [h.node?, hn]
    rw [edgesAround_of_node? hn] at hb
    rw [edgesAround_of_node? hn', h.edges?]
    cases hes : d.edges? x.graph with
    | none => simp [hes] at hb
    | some es =>
      rw [hes, Option.getD_some] at hb
      exact List.mem_append_left _ hb

/-- A port that no edge uses was not used before. -/
theorem free_before {p : Edge → Bool} {n : NodeId} (hfree : (e.edgesAround n).any p = false) :
    (d.edgesAround n).any p = false := by
  rw [List.any_eq_false] at hfree ⊢
  exact fun b hb => hfree b (h.mem_edgesAround hb)

/-- More edges let no other edge be made. -/
theorem canConnect (hcan : e.canConnect b = true) : d.canConnect b = true := by
  obtain ⟨s, t, hs, ht, hne, hg, hm, ho, hi⟩ := canConnect_iff.1 hcan
  rw [h.node?] at hs ht
  exact canConnect_iff.2 ⟨s, t, hs, ht, hne, hg, hm, h.free_before ho, h.free_before hi⟩

theorem canConnect_eq_false (hno : d.canConnect b = false) : e.canConnect b = false := by
  rw [← Bool.not_eq_true] at hno ⊢
  exact mt h.canConnect hno

end Appends

end GraphDraft.Document
