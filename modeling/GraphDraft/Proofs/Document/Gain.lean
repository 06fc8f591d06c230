import GraphDraft.Proofs.Document.Connection

/-!
# One node more

`Gains` says of a document that it is another one with one node more, and with more edges in the
graph of that node. Adding a node is such a gain (`Gains.grown`), and it stays one when the node is
moved, joined to others (`Gains.makes`) or selected.
-/

namespace GraphDraft.Document

/-- The nodes that a graph lists. -/
def listed (d : Document) (g : GraphId) : List NodeId :=
  ((d.graph? g).map (·.nodes)).getD []

def edgesIn (d : Document) (g : GraphId) : List Edge :=
  (d.edges? g).getD []

/-- The document `e` is `d` with a new node `id`, listed last in its graph, and with the edges `cs`
behind those that this graph had. -/
structure Gains (d : Document) (id : NodeId) (x : Node) (cs : List Edge) (e : Document) : Prop where
  new : d.node? id = none
  home : ∃ z, e.graph? x.graph = some z
  keys : e.nodes.keys = d.nodes.keys ++ [id]
  node : ∀ m, e.node? m = if m = id then some x else d.node? m
  listed : ∀ g, e.listed g = d.listed g ++ if g = x.graph then [id] else []
  edges : ∀ g, e.edgesIn g = d.edgesIn g ++ if g = x.graph then cs else []

variable {d e f : Document} {id n : NodeId} {x y : Node} {c : Edge} {cs bs : List Edge}

theorem listed_eq (d : Document) (g : GraphId) :
    d.listed g = ((d.listing? g).map (·.2)).getD [] := by
  rw [listed, listing?, Option.map_map]
  rfl

namespace Gains

theorem grown (h : d.Valid) {g : GraphId} (hg : d.graphs.contains g = true) (b : Blueprint)
    (p : Point) : d.Gains ⟨d.nextNode⟩ (d.newNode g b p) [] (d.grown g b p) where
  new := h.node?_new
  home := by
    obtain ⟨z, hz⟩ := Store.contains_iff.1 hg
    have hz' : d.graph? g = some z := hz
    exact ⟨_, by rw [newNode, graph?_grown h hg, if_neg (h.ne_new hg), if_pos rfl, hz']; rfl⟩
  keys := Store.keys_put_of_new _ h.node?_new
  node := node?_grown b p
  listed k := by
    obtain ⟨z, hz⟩ := Store.contains_iff.1 hg
    have hz' : d.graph? g = some z := hz
    have hgraph : (d.newNode g b p).graph = g := rfl
    rw [Document.listed, Document.listed, graph?_grown h hg, hgraph]
    by_cases hk : k = ⟨d.nextGraph⟩
    · subst k
      rw [if_pos rfl, if_neg (h.ne_new hg).symm, h.graph?_new]
      cases b.body <;> rfl
    · rw [if_neg hk]
      by_cases hkg : k = g
      · subst k
        simp [hz']
      · simp [hkg]
  edges k := by
    rw [edgesIn, edgesIn, edges?_grown h hg, ite_self, List.append_nil]
    by_cases hk : k = ⟨d.nextGraph⟩
    · subst k
      rw [if_pos rfl, edges?, h.graph?_new]
      cases b.body <;> rfl
    · rw [if_neg hk]

section
variable (h : d.Gains id x cs e)
include h

theorem node?_self : e.node? id = some x := by
  rw [h.node, if_pos rfl]

theorem node?_of_some (hn : d.node? n = some y) : e.node? n = some y := by
  rw [h.node, if_neg, hn]
  rintro rfl
  rw [h.new] at hn
  cases hn

theorem setSelection (ns : List NodeId) : d.Gains id x cs (e.setSelection ns) := { h with }

theorem setPosition (p : Point) :
    d.Gains id { x with position := p } cs (e.setPosition id p) := by
  have hcontains : e.nodes.contains id = true := Store.contains_iff.2 ⟨x, h.node?_self⟩
  rw [Document.setPosition, if_pos hcontains]
  refine { h with keys := ?_, node := fun m => ?_ }
  · exact (Store.keys_modify ..).trans h.keys
  · have hmoved : (e.mapPosition id fun _ => p).touch.node? m =
        if m = id then (e.node? m).map fun x => { x with position := p } else e.node? m :=
      Store.get?_modify ..
    rw [hmoved, h.node]
    split <;> rfl

/-- An edge at the new node goes into the graph of the node. -/
theorem addEdge (hend : c.source = id ∨ c.target = id) (hcan : e.canConnect c = true) :
    d.Gains id x (cs ++ [c]) (e.addEdge c) := by
  have happends := appends_addEdge hcan
  obtain ⟨s, t, hs, ht, -, hgraph, -⟩ := canConnect_iff.1 hcan
  have hin : s.graph = x.graph := by
    rcases hend with rfl | rfl
    · rw [h.node?_self] at hs
      cases hs
      rfl
    · rw [h.node?_self] at ht
      cases ht
      exact hgraph
  obtain ⟨z, hz⟩ := h.home
  refine ⟨h.new, ⟨_, by rw [happends.graph, hz]; rfl⟩, ?_, fun m => ?_, fun g => ?_, fun g => ?_⟩
  · rw [happends.nodes, h.keys]
  · rw [happends.node?, h.node]
  · rw [← h.listed, Document.listed, happends.graph, Option.map_map]
    rfl
  · have hgot : (e.addEdge c).edgesIn g = e.edgesIn g ++ if g = x.graph then [c] else [] := by
      rw [edgesIn, happends.edges?, edgesIn]
      by_cases hg : g = x.graph
      · simp [startsIn, hs, hin, hg, edges?_of_graph? hz]
      · simp [startsIn, hs, hin, hg, Ne.symm hg]
    rw [hgot, h.edges, List.append_assoc]
    split <;> rfl

theorem makes (hm : Makes e bs f) (hends : ∀ c ∈ bs, c.source = id ∨ c.target = id) :
    d.Gains id x (cs ++ bs) f := by
  induction hm generalizing cs with
  | nil => simpa using h
  | @cons _ _ c bs hcan _ ih =>
    have hnext := ih (h.addEdge (hends c List.mem_cons_self) hcan)
      fun b hb => hends b (List.mem_cons_of_mem _ hb)
    rwa [List.append_assoc] at hnext

end

/-- Only nodes, lists and edges matter of what there was before. -/
theorem of_views {d' : Document} (h : d'.Gains id x cs e) (hnodes : d'.nodes = d.nodes)
    (hlisted : d'.listed = d.listed) (hedges : d'.edgesIn = d.edgesIn) : d.Gains id x cs e := by
  have hnode : d'.node? = d.node? := by
    funext m
    rw [node?, hnodes, node?]
  exact
    { h with
      new := hnode ▸ h.new
      keys := hnodes ▸ h.keys
      node := hnode ▸ h.node
      listed := hlisted ▸ h.listed
      edges := hedges ▸ h.edges }

/-! ## A new node without edges -/

section
variable (h : d.Gains id x [] e)
include h

theorem edgesIn_eq : e.edgesIn = d.edgesIn := by
  funext g
  rw [h.edges, ite_self, List.append_nil]

theorem edgesAround (hn : d.node? n = some y) : e.edgesAround n = d.edgesAround n := by
  rw [edgesAround_of_node? (h.node?_of_some hn), edgesAround_of_node? hn, ← edgesIn, h.edgesIn_eq,
    edgesIn]

/-- The edges that there were join nodes that there were. -/
theorem ne_new_of_mem (hv : d.Valid) (hc : c ∈ e.edgesAround id) :
    c.source ≠ id ∧ c.target ≠ id := by
  rw [edgesAround_of_node? h.node?_self, ← edgesIn, h.edgesIn_eq, edgesIn] at hc
  cases hes : d.edges? x.graph with
  | none => simp [hes] at hc
  | some es =>
    have hjoins := hv.wired hes c (by rwa [hes] at hc)
    have hold : ∀ {m : NodeId}, (∃ b, d.place? m = some (x.graph, b)) → m ≠ id := by
      rintro m ⟨b, hb⟩ rfl
      obtain ⟨z, hz, -⟩ := node?_of_place? hb
      rw [h.new] at hz
      cases hz
    exact ⟨hold hjoins.source, hold hjoins.target⟩

/-- So all ports of the new node are free. -/
theorem free_new (hv : d.Valid) (kind : EdgeKind) (key : String) :
    e.outputConnected id kind key = false ∧ e.inputConnected id kind key = false := by
  constructor
  · refine List.any_eq_false.2 fun c hc => ?_
    simp [(h.ne_new_of_mem hv hc).1]
  · refine List.any_eq_false.2 fun c hc => ?_
    simp [(h.ne_new_of_mem hv hc).2]

end

end Gains

end GraphDraft.Document
