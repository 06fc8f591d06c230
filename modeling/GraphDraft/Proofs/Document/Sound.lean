import GraphDraft.Proofs.Document.Run

/-!
# Soundness

What a valid document looks like to someone who walks through its nodes and graphs (`Sound`): nodes
and graphs contain each other as a tree, edges join nodes of one graph, and whatever is named or
numbered is so once. It holds after any operations, and none of them hands out an identity that was
handed out before (`sound_runAll`).
-/

namespace GraphDraft

namespace Document

/-- The graph in which the owner of a graph stands. -/
def outer? (d : Document) (g : GraphId) : Option GraphId :=
  ((d.graph? g).bind (·.owner)).bind fun n => (d.node? n).map (·.graph)

/-- Each live node is listed once, by its own graph, and only live nodes are listed. -/
structure Housed (d : Document) : Prop where
  graph : ∀ n x, d.node? n = some x → ∃ y, d.graph? x.graph = some y
  once : ∀ n x g y, d.node? n = some x → d.graph? g = some y →
    y.nodes.count n = if g = x.graph then 1 else 0
  live : ∀ g y, d.graph? g = some y → ∀ n ∈ y.nodes, ∃ x, d.node? n = some x

/-- Bodies and their owners belong to each other, and every graph is somewhere inside the root. -/
structure Nested (d : Document) : Prop where
  root : ∃ y, d.graph? .root = some y ∧ y.owner = none
  body : ∀ n x b, d.node? n = some x → x.body = some b →
    ∃ y, d.graph? b = some y ∧ y.owner = some n
  owner : ∀ g y, d.graph? g = some y → g ≠ .root →
    ∃ n x, y.owner = some n ∧ d.node? n = some x ∧ x.body = some g
  outward : ∀ g y, d.graph? g = some y →
    Relation.ReflTransGen (fun g k => d.outer? g = some k) g .root

/-- What can be relied on in any document. -/
structure Sound (d : Document) : Prop where
  housed : d.Housed
  nested : d.Nested
  edges : ∀ g y, d.graph? g = some y → ∀ e ∈ y.edges, e.source ≠ e.target ∧
    ∃ s t, d.node? e.source = some s ∧ s.graph = g ∧ d.node? e.target = some t ∧ t.graph = g
  selected_once : d.selection.Nodup
  selected_live : ∀ n ∈ d.selection, ∃ x, d.node? n = some x
  names_once : ∀ scope g vs, d.declarations? scope g = some vs → vs.keys.Nodup
  definitions_once : (d.graphs.entries.flatMap fun e => e.2.definitions.map (·.id)).Nodup

variable {d : Document}

theorem Valid.housed (h : d.Valid) : d.Housed := by
  refine ⟨fun n x hn => ?_, fun n x g y hn hg => ?_, fun g y hg n hn => ?_⟩
  · obtain ⟨o, ns, hl, -⟩ := h.tree.home (place?_of_node? hn)
    obtain ⟨y, hy, -⟩ := graph?_of_listing? hl
    exact ⟨y, hy⟩
  · have hl := listing?_of_graph? hg
    split
    · obtain ⟨o, ns, hl', hm⟩ := h.tree.home (place?_of_node? hn)
      subst g
      rw [hl] at hl'
      cases hl'
      exact List.count_eq_one_of_mem (h.tree.once hl) hm
    · rename_i hne
      refine List.count_eq_zero_of_not_mem fun hm => hne ?_
      obtain ⟨b, hb⟩ := h.tree.listed hl hm
      rw [place?_of_node? hn] at hb
      exact (congrArg Prod.fst (Option.some.inj hb)).symm
  · obtain ⟨b, hb⟩ := h.tree.listed (listing?_of_graph? hg) hn
    obtain ⟨x, hx, -⟩ := node?_of_place? hb
    exact ⟨x, hx⟩

/-- Every step outward leads to an older graph, so there is a last one, the root. -/
theorem Valid.outward (h : d.Valid) (g : GraphId) (y : Graph) (hg : d.graph? g = some y) :
    Relation.ReflTransGen (fun g k => d.outer? g = some k) g .root := by
  cases ho : y.owner with
  | none =>
    have hroot : g = .root := h.tree.eq_root (ho ▸ listing?_of_graph? hg)
    rw [hroot]
  | some n =>
    obtain ⟨k, hk⟩ := h.tree.owner (ho ▸ listing?_of_graph? hg)
    obtain ⟨x, hx, rfl, hb⟩ := node?_of_place? hk
    obtain ⟨z, hz⟩ := h.housed.graph n x hx
    have hlt : x.graph.index < g.index := (h.tree.body hk).1
    have hstep : d.outer? g = some x.graph := by simp [outer?, hg, ho, hx]
    exact .head hstep (Valid.outward h x.graph z hz)
termination_by g.index

theorem Valid.nested (h : d.Valid) : d.Nested := by
  refine ⟨?_, fun n x b hn hb => ?_, fun g y hg hne => ?_, h.outward⟩
  · obtain ⟨ns, hr⟩ := h.tree.root
    obtain ⟨y, hy, ho, -⟩ := graph?_of_listing? hr
    exact ⟨y, hy, ho⟩
  · obtain ⟨-, ns, hl⟩ := h.tree.body (hb ▸ place?_of_node? hn)
    obtain ⟨y, hy, ho, -⟩ := graph?_of_listing? hl
    exact ⟨y, hy, ho⟩
  · have hl := listing?_of_graph? hg
    cases ho : y.owner with
    | none => exact absurd (h.tree.eq_root (ho ▸ hl)) hne
    | some n =>
      obtain ⟨k, hk⟩ := h.tree.owner (ho ▸ hl)
      obtain ⟨x, hx, -, hb⟩ := node?_of_place? hk
      exact ⟨n, x, rfl, hx, hb⟩

theorem Valid.names_once (h : d.Valid) (scope : Scope) (g : GraphId) (vs : Declarations)
    (hv : d.declarations? scope g = some vs) : vs.keys.Nodup := by
  cases scope with
  | graph => exact h.graphVariables hv
  | object => cases hv; exact h.objectVariables
  | scene => cases hv; exact h.sceneVariables
  | application => cases hv; exact h.applicationVariables
  | saved => cases hv; exact h.savedVariables

theorem Valid.definitions_once (h : d.Valid) :
    (d.graphs.entries.flatMap fun e => e.2.definitions.map (·.id)).Nodup := by
  have hdefs : ∀ e ∈ d.graphs.entries, d.definitions? e.1 = some e.2.definitions := fun e he =>
    definitions?_of_graph? (Store.get?_of_mem h.graphs he)
  rw [List.nodup_flatMap]
  refine ⟨fun e he => h.identified.nodup (hdefs e he), ?_⟩
  have hne : d.graphs.entries.Pairwise fun e f => e.1 ≠ f.1 := List.pairwise_map.1 h.graphs
  refine hne.imp_of_mem fun {e f} he hf hef id hid hid' => hef ?_
  obtain ⟨p, hp, rfl⟩ := List.mem_map.1 hid
  obtain ⟨q, hq, hpq⟩ := List.mem_map.1 hid'
  exact h.identified.apart (hdefs e he) (hdefs f hf) hp hq hpq.symm

theorem Valid.sound (h : d.Valid) : d.Sound where
  housed := h.housed
  nested := h.nested
  edges g y hg e he := by
    have hj := h.wired (edges?_of_graph? hg) e he
    obtain ⟨⟨b, hs⟩, c, ht⟩ := And.intro hj.source hj.target
    obtain ⟨s, hs, hsg, -⟩ := node?_of_place? hs
    obtain ⟨t, ht, htg, -⟩ := node?_of_place? ht
    exact ⟨hj.ne, s, t, hs, hsg, ht, htg⟩
  selected_once := h.selection_nodup
  selected_live n hn := by
    obtain ⟨g, b, hp⟩ := h.selected n hn
    obtain ⟨x, hx, -⟩ := node?_of_place? hp
    exact ⟨x, hx⟩
  names_once := h.names_once
  definitions_once := h.definitions_once

end Document

/-- Whatever operations are run on an empty document, the result is sound, and no identity is handed
out twice, that of the root included. -/
theorem sound_runAll (title : String) (os : List Operation) :
    (Operation.runAll os (.empty title)).Sound ∧
      (Operation.issuedAll os (.empty title)).nodes.Nodup ∧
      (GraphId.root :: (Operation.issuedAll os (.empty title)).graphs).Nodup ∧
      (Operation.issuedAll os (.empty title)).definitions.Nodup := by
  have hv := Document.valid_empty title
  have hs := hv.spans_runAll os
  refine ⟨(hv.runAll os).sound, ?_, ?_, ?_⟩
  · rw [hs.nodes]
    exact (List.Ico.nodup _ _).map fun i j hij => congrArg NodeId.index hij
  · rw [hs.graphs, List.nodup_cons]
    refine ⟨fun hm => ?_, (List.Ico.nodup _ _).map fun i j hij => congrArg GraphId.index hij⟩
    obtain ⟨i, hi, he⟩ := List.mem_map.1 hm
    have hpos : 1 ≤ i := (List.Ico.mem.1 hi).1
    have hzero : i = 0 := congrArg GraphId.index he
    omega
  · rw [hs.definitions]
    exact (List.Ico.nodup _ _).map fun i j hij => congrArg DefinitionId.index hij

end GraphDraft
