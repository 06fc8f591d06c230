import GraphDraft.Proofs.Document.Growth

/-!
# Removing a node

Removing a node takes away exactly what stands inside it: the node, and everything at any depth in
its body (`removeNode_eq`). While the body is being emptied, its graph is gone already but the node
itself is still listed; `removing d gone cut` is such a state, in which the nodes of `gone` do not
exist any more and those of `cut` have been taken out of lists, edges and selection too.
-/

namespace GraphDraft

/-- A graph without some nodes. -/
def Graph.without (x : Graph) (cut : NodeId → Bool) : Graph :=
  { x with
    nodes := x.nodes.filter (!cut ·)
    edges := x.edges.filter fun e => !cut e.source && !cut e.target }

theorem Graph.without_nothing (x : Graph) : x.without (fun _ => false) = x := by
  simp [Graph.without]

namespace Document

/-- Node `m` is `n` or stands, at any depth, in the body of `n`. -/
inductive Inside (place : NodeId → Option (GraphId × Option GraphId)) (n : NodeId) : NodeId → Prop
  | self : Inside place n n
  | deeper {m k : NodeId} {g b : GraphId} {c : Option GraphId} : Inside place n m →
    place m = some (g, some b) → place k = some (b, c) → Inside place n k

namespace Inside

variable {place : NodeId → Option (GraphId × Option GraphId)} {n m k : NodeId}

theorem trans (h₁ : Inside place n m) (h₂ : Inside place m k) : Inside place n k := by
  induction h₂ with
  | self => exact h₁
  | deeper _ hm hk ih => exact ih.deeper hm hk

/-- A node inside another is that node, or inside a node of its body. -/
theorem cases_head (h : Inside place n m) : m = n ∨
    ∃ g b k c, place n = some (g, some b) ∧ place k = some (b, c) ∧ Inside place k m := by
  induction h with
  | self => exact .inl rfl
  | deeper _ hm hk ih =>
    right
    rcases ih with rfl | ⟨g, b, k, c, hn, hk', hin⟩
    · exact ⟨_, _, _, _, hm, hk, .self⟩
    · exact ⟨g, b, k, c, hn, hk', hin.deeper hm hk⟩

/-- Going inside, the graphs get younger. -/
theorem index_lt {listing : GraphId → Option (Option NodeId × List NodeId)}
    (ht : Tree place listing) (h : Inside place n m) {g k : GraphId} {b c : Option GraphId}
    (hn : place n = some (g, b)) (hm : place m = some (k, c)) : m = n ∨ g.index < k.index := by
  induction h generalizing k c with
  | self => exact .inl rfl
  | @deeper m' m g' b' c' _ hm' hk ih =>
    right
    rw [hk] at hm
    cases hm
    have hlt := (ht.body hm').1
    rcases ih hm' with rfl | h
    · rw [hn] at hm'
      cases hm'
      exact hlt
    · omega

end Inside

variable {d : Document}

/-- The document without the nodes of `gone` and the graphs that they own; those of `cut` are also
taken out of lists, edges and the selection. -/
def removing (d : Document) (gone cut : NodeId → Bool) : Document :=
  { d with
    nodes := d.nodes.filterMap fun n x => if gone n then none else some x
    graphs := d.graphs.filterMap fun _ x => if x.owner.any gone then none else some (x.without cut)
    selection := d.selection.filter (!cut ·) }

/-- The document at another revision. -/
def revised (d : Document) (r : Nat) : Document :=
  { d with revision := r }

theorem Valid.revised (h : d.Valid) (r : Nat) : (d.revised r).Valid := { h with }

section
variable (h : d.Valid) (gone cut : NodeId → Bool)
include h

theorem node?_removing (n : NodeId) :
    (d.removing gone cut).node? n = if gone n then none else d.node? n := by
  rw [node?, removing, Store.get?_filterMap h.nodes]
  by_cases hn : gone n <;> simp [hn, node?]

theorem graph?_removing (g : GraphId) : (d.removing gone cut).graph? g = (d.graph? g).bind fun x =>
    if x.owner.any gone then none else some (x.without cut) :=
  Store.get?_filterMap h.graphs ..

variable {gone cut}

/-- What a graph lists and joins stands in it. -/
theorem without_congr {p q : NodeId → Bool} {g : GraphId} {x : Graph} (hx : d.graph? g = some x)
    (hpq : ∀ n b, d.place? n = some (g, b) → p n = q n) : x.without p = x.without q := by
  simp only [Graph.without, Graph.mk.injEq, true_and, and_true]
  constructor
  · refine List.filter_congr fun n hn => ?_
    obtain ⟨b, hb⟩ := h.tree.listed (listing?_of_graph? hx) hn
    rw [hpq n b hb]
  · refine List.filter_congr fun e he => ?_
    have hj := h.wired (edges?_of_graph? hx) e he
    obtain ⟨⟨_, hs⟩, _, ht⟩ := And.intro hj.source hj.target
    rw [hpq _ _ hs, hpq _ _ ht]

/-- Only what the two tests say of live nodes matters. -/
theorem removing_congr {gone' cut' : NodeId → Bool}
    (hg : ∀ n x, d.place? n = some x → gone n = gone' n)
    (hc : ∀ n x, d.place? n = some x → cut n = cut' n) :
    d.removing gone cut = d.removing gone' cut' := by
  have howner : ∀ g x, d.graphs.get? g = some x → x.owner.any gone = x.owner.any gone' := by
    intro g x hx
    cases ho : x.owner with
    | none => rfl
    | some n =>
      obtain ⟨k, hk⟩ := h.tree.owner (ho ▸ listing?_of_graph? hx)
      exact hg n _ hk
  simp only [removing, Document.mk.injEq, and_true]
  refine ⟨Store.filterMap_congr h.graphs fun g x hx => ?_,
    Store.filterMap_congr h.nodes fun n x hx => ?_, List.filter_congr fun n hn => ?_⟩
  · rw [howner g x hx, without_congr h hx fun n b hn => hc n (g, b) hn]
  · rw [hg n _ (place?_of_node? hx)]
  · obtain ⟨g, b, hp⟩ := h.selected n hn
    rw [hc n _ hp]

theorem removing_nothing : d.removing (fun _ => false) (fun _ => false) = d := by
  have hn : d.nodes.filterMap (fun _ x => if false then none else some x) = d.nodes :=
    Store.filterMap_eq_self h.nodes fun _ _ _ => rfl
  have hg : d.graphs.filterMap (fun _ x => if x.owner.any fun _ => false then none
      else some (x.without fun _ => false)) = d.graphs :=
    Store.filterMap_eq_self h.graphs fun g x _ => by simp [Graph.without_nothing]
  have hs : d.selection.filter (fun _ => !false) = d.selection :=
    List.filter_eq_self.2 fun _ _ => rfl
  rw [removing, hn, hg, hs]

/-! ## The steps of a removal -/

/-- A node owns its body, and no other graph. -/
theorem owner_eq_iff {n : NodeId} {g k : GraphId} {b : Option GraphId} {x : Graph}
    (hn : d.place? n = some (g, b)) (hx : d.graph? k = some x) : x.owner = some n ↔ b = some k := by
  have hl := listing?_of_graph? hx
  constructor
  · intro ho
    obtain ⟨_, hk⟩ := h.tree.owner (ho ▸ hl)
    rw [hn] at hk
    exact congrArg Prod.snd (Option.some.inj hk)
  · rintro rfl
    obtain ⟨-, ns, hb⟩ := h.tree.body hn
    rw [hl] at hb
    exact congrArg Prod.fst (Option.some.inj hb)

/-- Taking a node and its body out of the stores. -/
theorem erase_removing (gone cut : NodeId → Bool) {n : NodeId} {g : GraphId} {b : Option GraphId}
    (hn : d.place? n = some (g, b)) :
    { d.removing gone cut with
      nodes := (d.removing gone cut).nodes.erase n
      graphs := b.elim (d.removing gone cut).graphs (d.removing gone cut).graphs.erase } =
    d.removing (fun m => m = n || gone m) cut := by
  have hany : ∀ k x, d.graphs.get? k = some x →
      x.owner.any (fun m => m = n || gone m) = (b = some k || x.owner.any gone) := by
    intro k x hx
    have ho := owner_eq_iff h hn hx
    cases hb : x.owner with
    | none => simp [← ho, hb]
    | some m => simp [← ho, hb]
  simp only [removing, Document.mk.injEq, and_true]
  constructor
  · cases b with
    | none =>
      rw [Option.elim_none]
      refine Store.filterMap_congr h.graphs fun k x hx => ?_
      rw [hany k x hx]
      simp
    | some b =>
      rw [Option.elim_some, Store.erase_eq_filterMap, Store.filterMap_filterMap]
      refine Store.filterMap_congr h.graphs fun k x hx => ?_
      rw [hany k x hx]
      have hbk : b = k ↔ k = b := eq_comm
      by_cases hk : k = b <;> by_cases ho : x.owner.any gone <;> simp [hbk, hk, ho]
  · rw [Store.erase_eq_filterMap, Store.filterMap_filterMap]
    refine Store.filterMap_congr h.nodes fun m x _ => ?_
    by_cases hm : gone m <;> by_cases hmn : m = n <;> simp [hm, hmn]

omit h in
theorem without_of_absent {x : Graph} {n : NodeId} (hn : n ∉ x.nodes)
    (he : ∀ e ∈ x.edges, e.source ≠ n ∧ e.target ≠ n) :
    x.without (fun m => m = n || cut m) = x.without cut := by
  simp only [Graph.without, Graph.mk.injEq, true_and, and_true]
  constructor
  · refine List.filter_congr fun m hm => ?_
    have hmn : m ≠ n := by rintro rfl; exact hn hm
    simp [hmn]
  · refine List.filter_congr fun e hm => ?_
    simp [he e hm]

/-- A node is listed, and has its edges, in its own graph only. -/
theorem absent_of_ne {n : NodeId} {g k : GraphId} {b : Option GraphId} {x : Graph}
    (hn : d.place? n = some (g, b)) (hx : d.graph? k = some x) (hk : k ≠ g) :
    n ∉ x.nodes ∧ ∀ e ∈ x.edges, e.source ≠ n ∧ e.target ≠ n := by
  refine ⟨fun hm => ?_, fun e he => ?_⟩
  · obtain ⟨c, hc⟩ := h.tree.listed (listing?_of_graph? hx) hm
    rw [hn] at hc
    cases hc
    exact hk rfl
  · have hj := h.wired (edges?_of_graph? hx) e he
    constructor
    · rintro rfl
      obtain ⟨_, hs⟩ := hj.source
      rw [hn] at hs
      cases hs
      exact hk rfl
    · rintro rfl
      obtain ⟨_, ht⟩ := hj.target
      rw [hn] at ht
      cases ht
      exact hk rfl

/-- Taking a node out of the list of its graph, out of edges and out of the selection. -/
theorem detach_removing {n : NodeId} {g : GraphId} {b : Option GraphId}
    (hn : d.place? n = some (g, b)) :
    (d.removing gone cut).detach n g =
      (d.revised (d.revision + 1)).removing gone (fun m => m = n || cut m) := by
  simp only [detach, touch, mapListed, mapEdges, removing, revised, Document.mk.injEq, and_true,
    true_and]
  constructor
  · simp only [Store.modify_eq_filterMap, Store.filterMap_filterMap]
    refine Store.filterMap_congr h.graphs fun k x hx => ?_
    by_cases ho : x.owner.any gone
    · simp [ho]
    · by_cases hk : k = g
      · simp only [ho, hk, Graph.without]
        simp [List.filter_filter, Bool.and_assoc, Bool.and_comm, Bool.and_left_comm]
      · obtain ⟨hl, he⟩ := absent_of_ne h hn hx hk
        simp [ho, hk, without_of_absent hl he]
  · rw [List.filter_filter]
    refine List.filter_congr fun m _ => ?_
    simp

theorem size_removing_le {gone' cut' : NodeId → Bool} (hsub : ∀ m, gone m → gone' m) :
    (d.removing gone' cut').nodes.size ≤ (d.removing gone cut).nodes.size := by
  have : (d.removing gone' cut').nodes =
      (d.removing gone cut).nodes.filterMap fun m x => if gone' m then none else some x := by
    simp only [removing, Store.filterMap_filterMap]
    refine Store.filterMap_congr h.nodes fun m x _ => ?_
    by_cases hm : gone m
    · simp [hm, hsub m hm]
    · simp [hm]
  rw [this]
  exact Store.size_filterMap_le ..

end

/-! ## Whole removals -/

section
open scoped Classical

/-- The nodes that satisfy `p` or are in `s`. -/
noncomputable def plus (p : NodeId → Prop) (s : NodeId → Bool) (n : NodeId) : Bool :=
  decide (p n) || s n

theorem plus_iff {p : NodeId → Prop} {s : NodeId → Bool} {n : NodeId} :
    plus p s n = true ↔ p n ∨ s n = true := by
  simp [plus]

end

variable (h : d.Valid)
include h

/-- Nothing happens to a node that is no longer there, if all inside it has gone with it. -/
theorem removing_of_gone {gone cut : NodeId → Bool} {n : NodeId} {r : Nat}
    (hn : ((d.revised r).removing gone cut).node? n = none) (hcut : ∀ m, cut m → gone m)
    (hin : ∀ m, gone m → Inside d.place? n m → ∀ k, Inside d.place? m k → cut k) :
    (d.revised r).removing gone cut =
      (d.revised r).removing (plus (Inside d.place? n) gone) (plus (Inside d.place? n) cut) := by
  have hsub : ∀ m x, d.place? m = some x → Inside d.place? n m → cut m = true := by
    intro m x hm hnm
    rw [node?_removing (h.revised r)] at hn
    split at hn
    · exact hin n (by assumption) .self m hnm
    · rcases hnm.cases_head with rfl | ⟨_, _, _, _, hp, -⟩
      · obtain ⟨y, hy, -⟩ := node?_of_place? (g := x.1) (b := x.2) hm
        exact absurd (hn.symm.trans hy) (by simp)
      · obtain ⟨y, hy, -⟩ := node?_of_place? hp
        exact absurd (hn.symm.trans hy) (by simp)
  refine removing_congr (h.revised r) (fun m x hm => ?_) fun m x hm => ?_
  · rw [Bool.eq_iff_iff, plus_iff]
    exact ⟨.inr, fun h => h.elim (fun hi => hcut m (hsub m x hm hi)) id⟩
  · rw [Bool.eq_iff_iff, plus_iff]
    exact ⟨.inr, fun h => h.elim (fun hi => hsub m x hm hi) id⟩

/-- What `removeWithin` does to a state of a removal from `d`, if the depth suffices. -/
def RemovesWithin (d : Document) (depth : Nat) : Prop :=
  ∀ (gone cut : NodeId → Bool) (n : NodeId) (r : Nat), (d.removing gone cut).nodes.size ≤ depth →
    (∀ m, cut m → gone m) →
    (∀ m, gone m → Inside d.place? n m → ∀ k, Inside d.place? m k → cut k) →
    ∃ r', removeWithin depth n ((d.revised r).removing gone cut) =
      (d.revised r').removing (plus (Inside d.place? n) gone) (plus (Inside d.place? n) cut)

/-- Removing some nodes one after the other removes what is inside any of them. -/
theorem foldl_removeWithin {depth : Nat} (hd : RemovesWithin d depth) :
    ∀ (cs : List NodeId) (gone cut : NodeId → Bool) (r : Nat),
      (d.removing gone cut).nodes.size ≤ depth → (∀ m, cut m → gone m) →
      (∀ c ∈ cs, ∀ m, gone m → Inside d.place? c m → ∀ k, Inside d.place? m k → cut k) →
      ∃ r', cs.foldl (fun e n => removeWithin depth n e) ((d.revised r).removing gone cut) =
        (d.revised r').removing (plus (fun m => ∃ c ∈ cs, Inside d.place? c m) gone)
          (plus (fun m => ∃ c ∈ cs, Inside d.place? c m) cut)
  | [], gone, cut, r, _, _, _ => by
    refine ⟨r, removing_congr (h.revised r) (fun m _ _ => ?_) fun m _ _ => ?_⟩ <;> simp [plus]
  | c :: cs, gone, cut, r, hsize, hcut, hin => by
    obtain ⟨r₁, h₁⟩ := hd gone cut c r hsize hcut (hin c (by simp))
    have hsize' : (d.removing (plus (Inside d.place? c) gone)
        (plus (Inside d.place? c) cut)).nodes.size ≤ depth :=
      Nat.le_trans (size_removing_le h fun m hm => plus_iff.2 (.inr hm)) hsize
    obtain ⟨r₂, h₂⟩ := foldl_removeWithin hd cs (plus (Inside d.place? c) gone)
      (plus (Inside d.place? c) cut) r₁ hsize'
      (fun m hm => plus_iff.2 ((plus_iff.1 hm).imp id (hcut m))) fun c' hc' m hm hcm k hk => by
        rcases plus_iff.1 hm with hm | hm
        · exact plus_iff.2 (.inl (hm.trans hk))
        · exact plus_iff.2 (.inr (hin c' (by simp [hc']) m hm hcm k hk))
    refine ⟨r₂, ?_⟩
    rw [List.foldl_cons, h₁, h₂]
    have hplus : ∀ s m,
        plus (fun m => ∃ c ∈ cs, Inside d.place? c m) (plus (Inside d.place? c) s) m =
          plus (fun m => ∃ c' ∈ c :: cs, Inside d.place? c' m) s m := by
      intro s m
      rw [Bool.eq_iff_iff]
      simp only [plus_iff, List.mem_cons, exists_eq_or_imp]
      rw [or_left_comm, or_assoc]
    exact removing_congr (h.revised r₂) (fun m _ _ => hplus gone m) fun m _ _ => hplus cut m

/-- A node is outside the bodies of its own nodes. -/
theorem not_inside_child {n c : NodeId} {g b : GraphId} {o : Option GraphId}
    (hn : d.place? n = some (g, some b)) (hc : d.place? c = some (b, o)) :
    ¬Inside d.place? c n := by
  intro hin
  have hlt := (h.tree.body hn).1
  rcases hin.index_lt h.tree hc hn with rfl | hlt'
  · rw [hn] at hc
    cases hc
    exact Nat.lt_irrefl _ hlt
  · omega

omit h in
theorem removeWithin_of_plain {depth : Nat} {n : NodeId} {x : Node} (hn : d.node? n = some x)
    (hb : x.body = none) :
    removeWithin (depth + 1) n d = { d with nodes := d.nodes.erase n }.detach n x.graph := by
  rw [removeWithin, hn]
  simp only [hb, Option.bind_none]

omit h in
theorem removeWithin_of_composite {depth : Nat} {n : NodeId} {x : Node} {b : GraphId} {y : Graph}
    (hn : d.node? n = some x) (hb : x.body = some b) (hy : d.graph? b = some y) :
    removeWithin (depth + 1) n d = (y.nodes.foldl (fun e m => removeWithin depth m e)
      { d with nodes := d.nodes.erase n, graphs := d.graphs.erase b }).detach n x.graph := by
  have hy' : graph? { d with nodes := d.nodes.erase n } b = some y := hy
  rw [removeWithin, hn]
  simp only [hb, Option.bind_some, hy', Option.map_some]

/-- What is inside a composite is the composite itself or inside one of the nodes that are still
listed in its body, or has been taken out already. -/
theorem inside_iff_of_composite {cut : NodeId → Bool} {n : NodeId} {g b : GraphId}
    {o : Option NodeId} {ns : List NodeId} (hn : d.place? n = some (g, some b))
    (hl : d.listing? b = some (o, ns))
    (hin : ∀ m, cut m → Inside d.place? n m → ∀ k, Inside d.place? m k → cut k) (m : NodeId) :
    Inside d.place? n m ∨ cut m = true ↔
      m = n ∨ (∃ c ∈ ns.filter (!cut ·), Inside d.place? c m) ∨ cut m = true := by
  constructor
  · rintro (hnm | hm)
    · rcases hnm.cases_head with rfl | ⟨g', b', k, c, hn', hk, hkm⟩
      · exact .inl rfl
      · rw [hn] at hn'
        cases hn'
        right
        by_cases hc : cut k = true
        · exact .inr (hin k hc (.deeper .self hn hk) m hkm)
        · obtain ⟨o', ns', hl', hmem⟩ := h.tree.home hk
          rw [hl] at hl'
          cases hl'
          exact .inl ⟨k, List.mem_filter.2 ⟨hmem, by simpa using hc⟩, hkm⟩
    · exact .inr (.inr hm)
  · rintro (rfl | ⟨c, hc, hcm⟩ | hm)
    · exact .inl .self
    · obtain ⟨o', hp⟩ := h.tree.listed hl (List.mem_of_mem_filter hc)
      exact .inl (Inside.trans (.deeper .self hn hp) hcm)
    · exact .inr hm

theorem node?_removing_eq_some {gone cut : NodeId → Bool} {n : NodeId} {x : Node}
    (hn : (d.removing gone cut).node? n = some x) : gone n = false ∧ d.node? n = some x := by
  rw [node?_removing h] at hn
  split at hn
  · cases hn
  · exact ⟨by simpa using ‹¬gone n = true›, hn⟩

/-- Nothing but the node itself is inside a node without a body. -/
theorem removeWithin_plain {depth r : Nat} {gone cut : NodeId → Bool} {n : NodeId} {x : Node}
    (hn : ((d.revised r).removing gone cut).node? n = some x) (hb : x.body = none) :
    removeWithin (depth + 1) n ((d.revised r).removing gone cut) =
      (d.revised (r + 1)).removing (plus (Inside d.place? n) gone)
        (plus (Inside d.place? n) cut) := by
  have hr := h.revised r
  have hplace : d.place? n = some (x.graph, none) :=
    hb ▸ place?_of_node? (node?_removing_eq_some hr hn).2
  have hself : ∀ m, Inside d.place? n m ↔ m = n := fun m => by
    refine ⟨fun hm => ?_, fun hm => hm ▸ .self⟩
    rcases hm.cases_head with hm | ⟨_, _, _, _, hn', -⟩
    · exact hm
    · rw [hplace] at hn'
      cases hn'
  rw [removeWithin_of_plain hn hb]
  refine (congrArg (·.detach n x.graph) (erase_removing hr gone cut hplace)).trans ?_
  rw [detach_removing hr hplace]
  refine removing_congr (h.revised _) (fun m _ _ => ?_) fun m _ _ => ?_ <;>
    rw [Bool.eq_iff_iff, plus_iff, hself, Bool.or_eq_true, decide_eq_true_eq]

/-- A composite goes first, then the nodes that are still listed in its body. -/
theorem removeWithin_composite {depth r : Nat} (ih : RemovesWithin d depth)
    {gone cut : NodeId → Bool} {n : NodeId} {x : Node} {b : GraphId}
    (hsize : (d.removing gone cut).nodes.size ≤ depth + 1) (hcut : ∀ m, cut m → gone m)
    (hin : ∀ m, gone m → Inside d.place? n m → ∀ k, Inside d.place? m k → cut k)
    (hn : ((d.revised r).removing gone cut).node? n = some x) (hb : x.body = some b) :
    ∃ r', removeWithin (depth + 1) n ((d.revised r).removing gone cut) =
      (d.revised r').removing (plus (Inside d.place? n) gone) (plus (Inside d.place? n) cut) := by
  have hr := h.revised r
  obtain ⟨hgone, hnode⟩ := node?_removing_eq_some hr hn
  have hplace : d.place? n = some (x.graph, some b) := hb ▸ place?_of_node? hnode
  have herase := erase_removing hr gone cut hplace
  obtain ⟨-, ns, hl⟩ := h.tree.body hplace
  obtain ⟨y, hy, ho, rfl⟩ := graph?_of_listing? hl
  have hy' : ((d.revised r).removing gone cut).graph? b = some (y.without cut) := by
    rw [graph?_removing hr]
    show (d.graph? b).bind _ = _
    simp [hy, ho, hgone]
  have hsize' : (d.removing (fun m => m = n || gone m) cut).nodes.size ≤ depth := by
    have hlt := Store.size_erase_lt hn
    have he : ((d.revised r).removing gone cut).nodes.erase n =
        (d.removing (fun m => m = n || gone m) cut).nodes := congrArg (·.nodes) herase
    rw [he] at hlt
    exact Nat.le_of_lt_succ (Nat.lt_of_lt_of_le hlt hsize)
  obtain ⟨r₁, hfold⟩ := foldl_removeWithin h ih (y.nodes.filter (!cut ·))
    (fun m => m = n || gone m) cut r hsize' (fun m hm => by simp [hcut m hm])
    fun c hc m hm hcm k hmk => by
      obtain ⟨o, hp⟩ := h.tree.listed hl (List.mem_of_mem_filter hc)
      simp only [Bool.or_eq_true, decide_eq_true_eq] at hm
      rcases hm with rfl | hm
      · exact absurd hcm (not_inside_child h hplace hp)
      · exact hin m hm (Inside.trans (.deeper .self hplace hp) hcm) k hmk
  refine ⟨r₁ + 1, ?_⟩
  rw [removeWithin_of_composite hn hb hy']
  refine Eq.trans (congrArg (fun e => ((y.without cut).nodes.foldl
    (fun e m => removeWithin depth m e) e).detach n x.graph) herase) ?_
  refine Eq.trans (congrArg (·.detach n x.graph) hfold) ?_
  rw [detach_removing (h.revised r₁) hplace]
  have hcases := fun m => inside_iff_of_composite h hplace hl
    (fun k (hk : cut k = true) => hin k (hcut k hk)) m
  refine removing_congr (h.revised _) (fun m _ _ => ?_) fun m _ _ => ?_
  · rw [Bool.eq_iff_iff, plus_iff, plus_iff, Bool.or_eq_true, decide_eq_true_eq]
    constructor
    · rintro (hm | hm | hm)
      · exact ((hcases m).2 (.inr (.inl hm))).imp id (hcut m)
      · exact .inl (hm ▸ .self)
      · exact .inr hm
    · rintro (hm | hm)
      · rcases (hcases m).1 (.inl hm) with hm | hm | hm
        · exact .inr (.inl hm)
        · exact .inl hm
        · exact .inr (.inr (hcut m hm))
      · exact .inr (.inr hm)
  · rw [Bool.eq_iff_iff, Bool.or_eq_true, plus_iff, plus_iff, decide_eq_true_eq]
    exact (hcases m).symm

theorem removesWithin (depth : Nat) : RemovesWithin d depth := by
  induction depth with
  | zero =>
    intro gone cut n r hsize hcut hin
    refine ⟨r, removing_of_gone h ?_ hcut hin⟩
    cases hn : ((d.revised r).removing gone cut).node? n with
    | none => rfl
    | some x =>
      have hlt := Store.size_erase_lt hn
      have hzero : ((d.revised r).removing gone cut).nodes.size = 0 := Nat.le_zero.1 hsize
      omega
  | succ depth ih =>
    intro gone cut n r hsize hcut hin
    cases hn : ((d.revised r).removing gone cut).node? n with
    | none =>
      rw [removeWithin, hn]
      exact ⟨r, removing_of_gone h hn hcut hin⟩
    | some x =>
      cases hb : x.body with
      | none => exact ⟨r + 1, removeWithin_plain h hn hb⟩
      | some b => exact removeWithin_composite h ih hsize hcut hin hn hb

omit h in
/-- What is inside a node, the node included. -/
noncomputable def inside (d : Document) (n : NodeId) : NodeId → Bool :=
  plus (Inside d.place? n) fun _ => false

omit h in
theorem inside_iff {n m : NodeId} : d.inside n m = true ↔ Inside d.place? n m := by
  rw [inside, plus_iff]
  exact or_iff_left (by simp)

/-- Removing a node takes away what is inside it, and nothing else but the revision changes. -/
theorem removeNode_eq (n : NodeId) :
    ∃ r, d.removeNode n = (d.revised r).removing (d.inside n) (d.inside n) := by
  have hsize : (d.removing (fun _ => false) fun _ => false).nodes.size ≤ d.nodes.size :=
    Nat.le_of_eq (congrArg (·.nodes.size) (removing_nothing h))
  obtain ⟨r, hr⟩ := removesWithin h d.nodes.size (fun _ => false) (fun _ => false) n d.revision
    hsize (by simp) (by simp)
  refine ⟨r, ?_⟩
  rw [removing_nothing (h.revised _)] at hr
  exact hr

theorem node?_removeNode (n m : NodeId) :
    (d.removeNode n).node? m = if d.inside n m then none else d.node? m := by
  obtain ⟨r, hr⟩ := removeNode_eq h n
  rw [hr, node?_removing (h.revised r)]
  rfl

theorem graph?_removeNode (n : NodeId) (k : GraphId) : (d.removeNode n).graph? k =
    (d.graph? k).bind fun x =>
      if x.owner.any (d.inside n) then none else some (x.without (d.inside n)) := by
  obtain ⟨r, hr⟩ := removeNode_eq h n
  rw [hr, graph?_removing (h.revised r)]
  rfl

/-! ## Validity -/

section
variable {p : NodeId → Bool}

theorem place?_removing (n : NodeId) :
    (d.removing p p).place? n = if p n then none else d.place? n := by
  rw [place?, node?_removing h]
  split <;> rfl

theorem ports?_removing (n : NodeId) :
    (d.removing p p).ports? n = if p n then none else d.ports? n := by
  rw [ports?, node?_removing h]
  split <;> rfl

theorem keys?_removing (n : NodeId) :
    (d.removing p p).keys? n = if p n then none else d.keys? n := by
  rw [keys?, ports?_removing h]
  split <;> rfl

/-- What is left of a graph. -/
theorem graph?_removing_eq_some {g : GraphId} {x : Graph}
    (hx : (d.removing p p).graph? g = some x) :
    ∃ y, d.graph? g = some y ∧ y.owner.any p = false ∧ x = y.without p := by
  rw [graph?_removing h] at hx
  obtain ⟨y, hy, hx⟩ := Option.bind_eq_some_iff.1 hx
  split at hx
  · cases hx
  · rename_i ho
    exact ⟨y, hy, by simpa using ho, (Option.some.inj hx).symm⟩

theorem listing?_removing_eq_some {g : GraphId} {o : Option NodeId} {ns : List NodeId} :
    (d.removing p p).listing? g = some (o, ns) ↔
      o.any p = false ∧ ∃ ms, d.listing? g = some (o, ms) ∧ ns = ms.filter (!p ·) := by
  constructor
  · intro hl
    obtain ⟨x, hx, rfl, rfl⟩ := graph?_of_listing? hl
    obtain ⟨y, hy, ho, rfl⟩ := graph?_removing_eq_some h hx
    exact ⟨ho, y.nodes, listing?_of_graph? hy, rfl⟩
  · rintro ⟨ho, ms, hl, rfl⟩
    obtain ⟨y, hy, rfl, rfl⟩ := graph?_of_listing? hl
    rw [listing?, graph?_removing h, hy, Option.bind_some, if_neg (by simp [ho])]
    rfl

theorem definitions?_of_removing {g : GraphId} {ds : List PortDefinition}
    (hds : (d.removing p p).definitions? g = some ds) : d.definitions? g = some ds := by
  obtain ⟨x, hx, rfl⟩ := Option.map_eq_some_iff.1 hds
  obtain ⟨y, hy, -, rfl⟩ := graph?_removing_eq_some h hx
  exact (definitions?_of_graph? hy :)

theorem place?_removing_eq_some {n : NodeId} {x : GraphId × Option GraphId} :
    (d.removing p p).place? n = some x ↔ p n = false ∧ d.place? n = some x := by
  rw [place?_removing h]
  cases p n <;> simp

/-- A tree stays a tree without some nodes if it loses with each the nodes of its body. -/
theorem tree_removing (hp : ∀ ⦃m g b k c⦄, p m → d.place? m = some (g, some b) →
    d.place? k = some (b, c) → p k) : Tree (d.removing p p).place? (d.removing p p).listing? where
  root := by
    obtain ⟨ns, hr⟩ := h.tree.root
    exact ⟨_, (listing?_removing_eq_some h).2 ⟨rfl, ns, hr, rfl⟩⟩
  eq_root g ns hg := by
    obtain ⟨-, ms, hl, -⟩ := (listing?_removing_eq_some h).1 hg
    exact h.tree.eq_root hl
  home n g b hn := by
    obtain ⟨hpn, hn⟩ := (place?_removing_eq_some h).1 hn
    obtain ⟨o, ns, hl, hm⟩ := h.tree.home hn
    refine ⟨o, _, (listing?_removing_eq_some h).2 ⟨?_, ns, hl, rfl⟩,
      List.mem_filter.2 ⟨hm, by simp [hpn]⟩⟩
    -- the graph of a node that is left is left, since its owner takes its nodes along
    cases o with
    | none => rfl
    | some m =>
      obtain ⟨k, hk⟩ := h.tree.owner hl
      by_contra hpm
      have := hp (by simpa using hpm) hk hn
      rw [hpn] at this
      cases this
  listed g o ns n hg hn := by
    obtain ⟨-, ms, hl, rfl⟩ := (listing?_removing_eq_some h).1 hg
    obtain ⟨hm, hpn⟩ := List.mem_filter.1 hn
    obtain ⟨b, hb⟩ := h.tree.listed hl hm
    exact ⟨b, (place?_removing_eq_some h).2 ⟨by simpa using hpn, hb⟩⟩
  once g o ns hg := by
    obtain ⟨-, ms, hl, rfl⟩ := (listing?_removing_eq_some h).1 hg
    exact (h.tree.once hl).filter _
  body n g b hn := by
    obtain ⟨hpn, hn⟩ := (place?_removing_eq_some h).1 hn
    obtain ⟨hlt, ns, hl⟩ := h.tree.body hn
    exact ⟨hlt, _, (listing?_removing_eq_some h).2 ⟨by simp [hpn], ns, hl, rfl⟩⟩
  owner g n ns hg := by
    obtain ⟨hpn, ms, hl, -⟩ := (listing?_removing_eq_some h).1 hg
    obtain ⟨k, hk⟩ := h.tree.owner hl
    exact ⟨k, (place?_removing_eq_some h).2 ⟨by simpa using hpn, hk⟩⟩

/-- The edges that are left join nodes that are left. -/
theorem wired_removing :
    Wired (d.removing p p).place? (d.removing p p).keys? (d.removing p p).edges? := by
  intro g es hes e he
  obtain ⟨x, hx, rfl⟩ := graph?_of_edges? hes
  obtain ⟨y, hy, -, rfl⟩ := graph?_removing_eq_some h hx
  obtain ⟨he, hpe⟩ := List.mem_filter.1 he
  simp only [Bool.and_eq_true, Bool.not_eq_true'] at hpe
  have hj := h.wired (edges?_of_graph? hy) e he
  exact
    { ne := hj.ne
      source := hj.source.imp fun _ hs => (place?_removing_eq_some h).2 ⟨hpe.1, hs⟩
      target := hj.target.imp fun _ ht => (place?_removing_eq_some h).2 ⟨hpe.2, ht⟩
      output := by rw [keys?_removing h, hpe.1]; exact hj.output
      input := by rw [keys?_removing h, hpe.2]; exact hj.input }

/-- A document stays valid without some nodes if it loses with each all that is inside. -/
theorem Valid.removing (hp : ∀ ⦃m g b k c⦄, p m → d.place? m = some (g, some b) →
    d.place? k = some (b, c) → p k) : (d.removing p p).Valid :=
  { h with
    tree := tree_removing h hp
    wired := wired_removing h
    composed := by
      intro n g b q ds hn hq hds
      obtain ⟨hpn, hn⟩ := (place?_removing_eq_some h).1 hn
      rw [ports?_removing h, hpn] at hq
      exact h.composed hn hq (definitions?_of_removing h hds)
    identified :=
      { nodup := fun g ds hds => h.identified.nodup (definitions?_of_removing h hds)
        apart := fun g k ds es q q' hds hes =>
          h.identified.apart (definitions?_of_removing h hds) (definitions?_of_removing h hes) }
    node_lt := fun n g b hn => h.node_lt ((place?_removing_eq_some h).1 hn).2
    graph_lt := by
      intro g o ns hg
      obtain ⟨-, ms, hl, -⟩ := (listing?_removing_eq_some h).1 hg
      exact h.graph_lt hl
    definition_lt := fun g ds q hds => h.definition_lt (definitions?_of_removing h hds)
    graphVariables := by
      intro g vs hvs
      obtain ⟨x, hx, rfl⟩ := Option.map_eq_some_iff.1 hvs
      obtain ⟨y, hy, -, rfl⟩ := graph?_removing_eq_some h hx
      exact h.graphVariables (congrArg (Option.map _) hy)
    selection_nodup := h.selection_nodup.filter _
    selected := by
      intro n hn
      obtain ⟨hn, hpn⟩ := List.mem_filter.1 hn
      obtain ⟨g, b, hgb⟩ := h.selected n hn
      exact ⟨g, b, (place?_removing_eq_some h).2 ⟨by simpa using hpn, hgb⟩⟩
    nodes := h.nodes.filterMap _
    graphs := h.graphs.filterMap _ }

end

theorem Valid.removeNode (n : NodeId) : (d.removeNode n).Valid := by
  obtain ⟨r, hr⟩ := removeNode_eq h n
  rw [hr]
  refine Valid.removing (h.revised r) fun m g b k c hm hg hk => ?_
  exact inside_iff.2 ((inside_iff.1 hm).deeper hg hk)

end Document

end GraphDraft
