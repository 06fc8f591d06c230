import GraphDraft.Proofs.Document.Sound

/-!
# Nested graphs

`Within k g` says that graph `k` is `g` or is nested in it. In a valid document two bodies of nodes
of one graph have nothing nested in common (`Valid.siblings`), and what is nested in a graph is
either the graph itself or within one such body (`within_iff`). Going inwards there are ever fewer
graphs left that come later (`Valid.later_lt`), and going outwards ever fewer that come earlier
(`Valid.earlier_lt`); these are the measures for recursions over nested graphs.
-/

namespace GraphDraft.Document

/-- Graph `k` is `g` or nested in it. -/
def Within (d : Document) (k g : GraphId) : Prop :=
  Relation.ReflTransGen (fun k g => d.outer? k = some g) k g

/-- The number of live graphs of which the index has a property. -/
def countGraphs (d : Document) (p : Nat → Bool) : Nat :=
  (d.graphs.keys.filter (p ·.index)).length

/-- The number of live graphs that are not older than a graph. -/
def later (d : Document) (g : GraphId) : Nat :=
  d.countGraphs (g.index ≤ ·)

/-- The number of live graphs that are not younger than a graph. -/
def earlier (d : Document) (g : GraphId) : Nat :=
  d.countGraphs (· ≤ g.index)

variable {d : Document} {g k b : GraphId} {p q : Nat → Bool}

theorem countGraphs_le_size (d : Document) (p : Nat → Bool) : d.countGraphs p ≤ d.graphs.size :=
  (List.length_filter_le ..).trans_eq (List.length_map ..)

theorem countGraphs_pos {x : Graph} (hg : d.graph? g = some x) (hp : p g.index = true) :
    0 < d.countGraphs p :=
  List.length_pos_of_mem (List.mem_filter.2 ⟨Store.mem_keys_of_get? hg, hp⟩)

theorem countGraphs_lt {x : Graph} (himp : ∀ i, p i = true → q i = true)
    (hg : d.graph? g = some x) (hp : p g.index = false) (hq : q g.index = true) :
    d.countGraphs p < d.countGraphs q := by
  have hfilter : (d.graphs.keys.filter (q ·.index)).filter (p ·.index) =
      d.graphs.keys.filter (p ·.index) := by
    rw [List.filter_filter]
    refine List.filter_congr fun k _ => ?_
    cases hk : p k.index with
    | false => rfl
    | true => rw [himp _ hk, Bool.and_self]
  rw [countGraphs, ← hfilter]
  have hmem : g ∈ d.graphs.keys.filter (q ·.index) :=
    List.mem_filter.2 ⟨Store.mem_keys_of_get? hg, hq⟩
  exact List.length_filter_lt_length_iff_exists.2 ⟨g, hmem, by simp [hp]⟩

theorem later_pos {x : Graph} (hg : d.graph? g = some x) : 0 < d.later g :=
  countGraphs_pos hg (decide_eq_true le_rfl)

theorem earlier_pos {x : Graph} (hg : d.graph? g = some x) : 0 < d.earlier g :=
  countGraphs_pos hg (decide_eq_true le_rfl)

theorem outer?_eq_some_iff : d.outer? k = some g ↔
    ∃ x n y, d.graph? k = some x ∧ x.owner = some n ∧ d.node? n = some y ∧ y.graph = g := by
  simp only [outer?, Option.bind_eq_some_iff, Option.map_eq_some_iff]
  constructor
  · rintro ⟨n, ⟨x, hx, ho⟩, y, hy, rfl⟩
    exact ⟨x, n, y, hx, ho, hy, rfl⟩
  · rintro ⟨x, n, y, hx, ho, hy, rfl⟩
    exact ⟨n, ⟨x, hx, ho⟩, y, hy, rfl⟩

section
variable (h : d.Valid)
include h

/-- The graph outside a body is that of its owner. -/
theorem Valid.outer?_body {n : NodeId} {y : Node} (hn : d.node? n = some y)
    (hb : y.body = some b) : d.outer? b = some y.graph := by
  obtain ⟨-, ns, hl⟩ := h.tree.body (hb ▸ place?_of_node? hn)
  obtain ⟨x, hx, ho, -⟩ := graph?_of_listing? hl
  exact outer?_eq_some_iff.2 ⟨x, n, y, hx, ho, hn, rfl⟩

theorem Valid.exists_body (hk : d.outer? k = some g) :
    ∃ n y, d.node? n = some y ∧ y.graph = g ∧ y.body = some k := by
  obtain ⟨x, n, y, hx, ho, hy, hg⟩ := outer?_eq_some_iff.1 hk
  obtain ⟨k', hp⟩ := h.tree.owner (ho ▸ listing?_of_graph? hx)
  obtain ⟨z, hz, -, hb⟩ := node?_of_place? hp
  cases hy.symm.trans hz
  exact ⟨n, y, hy, hg, hb⟩

/-- A body has one owner. -/
theorem Valid.owner_unique {n m : NodeId} {y z : Node} (hn : d.node? n = some y)
    (hm : d.node? m = some z) (hy : y.body = some b) (hz : z.body = some b) : n = m := by
  obtain ⟨-, ns, hl⟩ := h.tree.body (hy ▸ place?_of_node? hn)
  obtain ⟨-, ms, hl'⟩ := h.tree.body (hz ▸ place?_of_node? hm)
  cases hl.symm.trans hl'
  rfl

/-- A graph is younger than the one outside. -/
theorem Valid.outer_lt (hk : d.outer? k = some g) : g.index < k.index := by
  obtain ⟨n, y, hy, rfl, hb⟩ := h.exists_body hk
  exact (h.tree.body (hb ▸ place?_of_node? hy)).1

theorem Within.index_le (hk : d.Within k g) : g.index ≤ k.index := by
  induction hk with
  | refl => exact Nat.le_refl _
  | tail _ ho ih => exact (Nat.le_of_lt (h.outer_lt ho)).trans ih

omit h in
theorem within_iff : d.Within k g ↔ k = g ∨ ∃ b, d.outer? b = some g ∧ d.Within k b := by
  rw [Within, Relation.ReflTransGen.cases_tail_iff, eq_comm]
  exact or_congr_right ⟨fun ⟨b, hw, ho⟩ => ⟨b, ho, hw⟩, fun ⟨b, ho, hw⟩ => ⟨b, hw, ho⟩⟩

/-- Different bodies of nodes of one graph have nothing nested in common: going outwards from what
they had in common, one would meet one of them before the other, and so the graph before itself. -/
theorem Valid.siblings {a : GraphId} (hka : d.Within k a) (hkb : d.Within k b)
    (ha : d.outer? a = some g) (hb : d.outer? b = some g) : a = b := by
  have hnested : ∀ {a b}, d.outer? a = some g → d.outer? b = some g → d.Within a b → a = b := by
    intro a b ha hb hab
    rcases Relation.ReflTransGen.cases_head hab with rfl | ⟨c, hc, hcb⟩
    · rfl
    · cases ha.symm.trans hc
      exact absurd (Within.index_le h hcb) (Nat.not_le_of_lt (h.outer_lt hb))
  have hunique : Relator.RightUnique fun k g => d.outer? k = some g :=
    fun _ _ _ h₁ h₂ => Option.some.inj (h₁.symm.trans h₂)
  rcases Relation.ReflTransGen.total_of_right_unique hunique hka hkb with hab | hba
  · exact hnested ha hb hab
  · exact (hnested hb ha hba).symm

/-- A live graph is within live graphs only. -/
theorem Valid.graph?_of_within {x : Graph} (hk : d.graph? k = some x) (hw : d.Within k g) :
    ∃ y, d.graph? g = some y := by
  rcases within_iff.1 hw with rfl | ⟨b, hb, -⟩
  · exact ⟨x, hk⟩
  · obtain ⟨n, y, hn, rfl, -⟩ := h.exists_body hb
    exact h.housed.graph n y hn

/-- Going inwards, fewer graphs come later. -/
theorem Valid.later_lt {x : Graph} (hg : d.graph? g = some x) (hb : d.outer? b = some g) :
    d.later b < d.later g := by
  have hlt := h.outer_lt hb
  refine countGraphs_lt (fun i hi => ?_) hg (decide_eq_false (by omega)) (decide_eq_true le_rfl)
  have hle := of_decide_eq_true hi
  exact decide_eq_true (by omega)

/-- Going outwards, fewer graphs come earlier. -/
theorem Valid.earlier_lt {x : Graph} (hb : d.graph? b = some x) (hg : d.outer? b = some g) :
    d.earlier g < d.earlier b := by
  have hlt := h.outer_lt hg
  refine countGraphs_lt (fun i hi => ?_) hb (decide_eq_false (by omega)) (decide_eq_true le_rfl)
  have hle := of_decide_eq_true hi
  exact decide_eq_true (by omega)

end

/-! ## The nodes of a graph -/

theorem node?_of_mem_nodesIn {p : NodeId × Node} (hp : p ∈ d.nodesIn g) :
    d.node? p.1 = some p.2 := by
  obtain ⟨n, -, hn⟩ := List.mem_filterMap.1 hp
  obtain ⟨y, hy, rfl⟩ := Option.map_eq_some_iff.1 hn
  exact hy

section
variable (h : d.Valid) {x : Graph} (hg : d.graph? g = some x)
include h hg

/-- No node that a graph lists is left out. -/
theorem Valid.map_fst_nodesIn : (d.nodesIn g).map (·.1) = x.nodes := by
  have hlive : ∀ n ∈ x.nodes, ((d.node? n).map (n, ·)).map (·.1) = some n := fun n hn => by
    obtain ⟨y, hy⟩ := h.housed.live g x hg n hn
    rw [hy]
    rfl
  rw [nodesIn, hg, Option.map_some, Option.getD_some, List.map_filterMap,
    List.filterMap_congr hlive, List.filterMap_some]

theorem Valid.nodup_nodes : x.nodes.Nodup :=
  h.tree.once (listing?_of_graph? hg)

theorem Valid.nodup_nodesIn : (d.nodesIn g).Nodup :=
  .of_map (·.1) (h.map_fst_nodesIn hg ▸ h.nodup_nodes hg)

theorem Valid.mem_nodesIn_iff {p : NodeId × Node} :
    p ∈ d.nodesIn g ↔ d.node? p.1 = some p.2 ∧ p.2.graph = g := by
  constructor
  · intro hp
    have hn := node?_of_mem_nodesIn hp
    have hlisted : p.1 ∈ x.nodes := h.map_fst_nodesIn hg ▸ List.mem_map_of_mem hp
    obtain ⟨b, hb⟩ := h.tree.listed (listing?_of_graph? hg) hlisted
    have hplace := (place?_of_node? hn).symm.trans hb
    exact ⟨hn, congrArg Prod.fst (Option.some.inj hplace)⟩
  · rintro ⟨hn, rfl⟩
    obtain ⟨o, ns, hl, hm⟩ := h.tree.home (place?_of_node? hn)
    cases (listing?_of_graph? hg).symm.trans hl
    rw [← h.map_fst_nodesIn hg] at hm
    obtain ⟨q, hq, hqn⟩ := List.mem_map.1 hm
    have hq' := node?_of_mem_nodesIn hq
    rw [hqn, hn] at hq'
    have heq : p = q := Prod.ext hqn.symm (Option.some.inj hq')
    exact heq ▸ hq

end

end GraphDraft.Document
