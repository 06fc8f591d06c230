import GraphDraft.Proofs.Document.Deletion
import GraphDraft.Proofs.Outline.Walk

/-!
# Outlines are complete

An outline leaves nothing out (`Covers`, `outline_covers`): the walk on which it is written comes
once by each live graph, by each live node and by each edge. What it comes by is gathered under the
headings of the graphs (`ownStops`), of which each has all that its graph lists.

`Locates` is the recursion for the path of a node without a bound on its depth. Going outwards the
graphs get older, so that this too comes to an end in a valid document, with the path that an
outline gives (`locates_iff`).
-/

namespace GraphDraft.Outline

open Document

variable {d : Document} {g : GraphId} {x : Graph} {levels depth : Nat}

/-! ## Coverage -/

/-- A walk over a document leaves nothing out and comes by nothing twice. -/
structure Covers (d : Document) (stops : List Stop) : Prop where
  /-- Each live graph has one heading. -/
  graphs : ∀ g, (stops.filterMap Stop.graph?).count g = if (d.graph? g).isSome then 1 else 0
  /-- Each live node has one number. -/
  nodes : ∀ n, (stops.filterMap Stop.node?).count n = if (d.node? n).isSome then 1 else 0
  /-- A node stands under the heading of its graph. -/
  housed : ∀ ⦃depth g i n⦄, .node depth g i n ∈ stops → ∃ y, d.node? n = some y ∧ y.graph = g
  /-- Under the heading of a graph, its nodes have their places as numbers. -/
  numbered : ∀ ⦃g x⦄, d.graph? g = some x → stops.filterMap (Stop.nodeIn? g) = x.nodes.zipIdx
  /-- Under the heading of a graph stand its edges. -/
  edges : ∀ ⦃g x⦄, d.graph? g = some x → stops.filterMap (Stop.edgeIn? g) = x.edges
  /-- The line of an edge names both ends by their places. -/
  resolved : ∀ ⦃depth g e⦄, .edge depth g e ∈ stops → ∃ (x : Graph) (i j : Nat),
    d.graph? g = some x ∧ x.nodes[i]? = some e.source ∧
    x.nodes[j]? = some e.target ∧ (Stop.edge depth g e).lines d = [indent (depth + 1) ++
      ("[" ++ toString i ++ "]" ++ "." ++ e.output ++ arrow e.kind ++
        ("[" ++ toString j ++ "]") ++ "." ++ e.input)]

/-! ### What stands under one heading -/

section
variable (d g x depth)

theorem filterMap_ownStops {β : Type} (f : Stop → Option β) : (ownStops d g x depth).filterMap f =
    (f (.graph depth g)).toList ++
      (d.nodesIn g).zipIdx.filterMap (fun p => f (.node depth g p.2 p.1.1)) ++
      x.edges.filterMap (fun e => f (.edge depth g e)) := by
  rw [ownStops, List.filterMap_append, List.filterMap_cons, List.filterMap_map, List.filterMap_map]
  cases f (.graph depth g) <;> rfl

theorem nodeIn?_ownStops : (ownStops d g x depth).filterMap (Stop.nodeIn? g) =
    ((d.nodesIn g).map (·.1)).zipIdx := by
  simp [filterMap_ownStops, Stop.nodeIn?, List.zipIdx_map]

theorem edgeIn?_ownStops : (ownStops d g x depth).filterMap (Stop.edgeIn? g) = x.edges := by
  simp [filterMap_ownStops, Stop.edgeIn?]

end

/-- What is gathered under one heading only is gathered from the stops there. -/
theorem filterMap_filter_home {β : Type} {f : Stop → Option β}
    (hf : ∀ s, s.home ≠ g → f s = none) (ss : List Stop) :
    (ss.filter (·.home = g)).filterMap f = ss.filterMap f := by
  rw [List.filterMap_filter]
  refine List.filterMap_congr fun s _ => ?_
  by_cases hs : s.home = g
  · rw [if_pos (decide_eq_true hs)]
  · rw [if_neg (by simpa using hs), hf s hs]

/-- The walk that an outline is written on. -/
def tour (d : Document) : List Stop :=
  stops d d.graphs.size .root 0

section
variable (h : d.Valid)
include h

theorem exists_filter_tour (hg : d.graph? g = some x) :
    ∃ depth, (tour d).filter (·.home = g) = ownStops d g x depth :=
  filter_home_stops h hg (h.outward g x hg) (countGraphs_le_size ..) 0

theorem filterMap_tour {β : Type} {f : Stop → Option β} (hf : ∀ s, s.home ≠ g → f s = none)
    (hg : d.graph? g = some x) {l : List β}
    (hown : ∀ depth, (ownStops d g x depth).filterMap f = l) : (tour d).filterMap f = l := by
  obtain ⟨depth, hdepth⟩ := exists_filter_tour h hg
  rw [← filterMap_filter_home hf, hdepth, hown]

theorem mem_ownStops_of_mem_tour {s : Stop} (hs : s ∈ tour d) :
    ∃ x depth, d.graph? s.home = some x ∧ s ∈ ownStops d s.home x depth := by
  obtain ⟨⟨x, hx⟩, -⟩ := within_of_mem_stops h hs
  obtain ⟨depth, hdepth⟩ := exists_filter_tour h hx
  exact ⟨x, depth, hx, hdepth ▸ List.mem_filter.2 ⟨hs, decide_eq_true rfl⟩⟩

theorem nodeIn?_tour (hg : d.graph? g = some x) :
    (tour d).filterMap (Stop.nodeIn? g) = x.nodes.zipIdx := by
  refine filterMap_tour h (fun s hs => ?_) hg fun depth => ?_
  · cases s <;> simp_all [Stop.nodeIn?, Stop.home]
  · rw [nodeIn?_ownStops, h.map_fst_nodesIn hg]

theorem edgeIn?_tour (hg : d.graph? g = some x) :
    (tour d).filterMap (Stop.edgeIn? g) = x.edges := by
  refine filterMap_tour h (fun s hs => ?_) hg fun depth => edgeIn?_ownStops ..
  cases s <;> simp_all [Stop.edgeIn?, Stop.home]

theorem node?_of_mem_tour {i : Nat} {n : NodeId} (hs : Stop.node depth g i n ∈ tour d) :
    ∃ y, d.node? n = some y ∧ y.graph = g := by
  obtain ⟨x, depth', hx, hs⟩ := mem_ownStops_of_mem_tour h hs
  simp only [ownStops, Stop.home, List.cons_append, List.mem_cons, List.mem_append, List.mem_map,
    reduceCtorEq, false_or, and_false, exists_false, or_false, Stop.node.injEq] at hs hx
  obtain ⟨p, hp, -, -, -, rfl⟩ := hs
  obtain ⟨hn, hgraph⟩ := (h.mem_nodesIn_iff hx).1 (List.fst_mem_of_mem_zipIdx hp)
  exact ⟨p.1.2, hn, hgraph⟩

theorem graphs_tour (g : GraphId) : ((tour d).filterMap Stop.graph?).count g =
    if (d.graph? g).isSome then 1 else 0 := by
  cases hg : d.graph? g with
  | none =>
    refine List.count_eq_zero.2 fun hmem => ?_
    obtain ⟨s, hs, hsg⟩ := List.mem_filterMap.1 hmem
    obtain ⟨⟨x, hx⟩, -⟩ := within_of_mem_stops h hs
    cases s <;> cases hsg
    cases hg.symm.trans hx
  | some x =>
    obtain ⟨depth, hdepth⟩ := exists_filter_tour h hg
    -- a heading of the graph stands under itself
    have hfilter : ((tour d).filterMap Stop.graph?).count g =
        (((tour d).filter (·.home = g)).filterMap Stop.graph?).count g := by
      rw [List.count_filterMap, List.count_filterMap, List.countP_filter]
      refine List.countP_congr fun s _ => ?_
      cases s <;> simp +contextual [Stop.graph?, Stop.home]
    rw [hfilter, hdepth, filterMap_ownStops]
    simp [Stop.graph?]

theorem nodes_tour (n : NodeId) : ((tour d).filterMap Stop.node?).count n =
    if (d.node? n).isSome then 1 else 0 := by
  cases hn : d.node? n with
  | none =>
    refine List.count_eq_zero.2 fun hmem => ?_
    obtain ⟨s, hs, hsn⟩ := List.mem_filterMap.1 hmem
    cases s <;> cases hsn
    obtain ⟨y, hy, -⟩ := node?_of_mem_tour h hs
    cases hn.symm.trans hy
  | some y =>
    obtain ⟨x, hx⟩ := h.housed.graph n y hn
    -- all its numbers stand under its graph, which lists it once
    have hhome : ((tour d).filterMap Stop.node?).count n =
        (((tour d).filterMap (Stop.nodeIn? y.graph)).map (·.1)).count n := by
      rw [List.map_filterMap, List.count_filterMap, List.count_filterMap]
      refine List.countP_congr fun s hs => ?_
      cases s with
      | graph | edge => simp [Stop.node?, Stop.nodeIn?]
      | node depth g i m =>
        obtain ⟨z, hz, rfl⟩ := node?_of_mem_tour h hs
        by_cases hmn : m = n
        · subst hmn
          cases hn.symm.trans hz
          simp [Stop.node?, Stop.nodeIn?]
        · by_cases hg : z.graph = y.graph <;> simp [Stop.node?, Stop.nodeIn?, hmn, hg]
    rw [hhome, nodeIn?_tour h hx, List.zipIdx_map_fst, h.housed.once n y _ x hn hx, if_pos rfl]
    rfl

omit h in
theorem indexOf?_eq {i : Nat} {n : NodeId} (hnodup : x.nodes.Nodup) (hi : x.nodes[i]? = some n) :
    x.indexOf? n = some i := by
  obtain ⟨hlt, hget⟩ := List.getElem?_eq_some_iff.1 hi
  refine List.findIdx?_eq_some_iff_getElem.2 ⟨hlt, decide_eq_true hget, fun j hj hjn => ?_⟩
  have hjn := (List.getElem_inj hnodup).1 ((of_decide_eq_true hjn).trans hget.symm)
  omega

omit h in
/-- The place of a node is its number. -/
theorem place_eq {i : Nat} {n : NodeId} (hnodup : x.nodes.Nodup) (hi : x.nodes[i]? = some n) :
    x.place n = "[" ++ toString i ++ "]" := by
  rw [Graph.place, indexOf?_eq hnodup hi]
  rfl

theorem edge_of_mem_tour {e : Edge} (hs : Stop.edge depth g e ∈ tour d) :
    ∃ x, d.graph? g = some x ∧ e ∈ x.edges := by
  obtain ⟨x, depth', hx, hs⟩ := mem_ownStops_of_mem_tour h hs
  simp only [ownStops, Stop.home, List.cons_append, List.mem_cons, List.mem_append, List.mem_map,
    reduceCtorEq, false_or, and_false, exists_false, Stop.edge.injEq] at hs hx
  obtain ⟨e, he, -, -, rfl⟩ := hs
  exact ⟨x, hx, he⟩

/-- A node that stands in a graph has a number there. -/
theorem exists_getElem?_of_place {n : NodeId} {b : Option GraphId} (hg : d.graph? g = some x)
    (hn : d.place? n = some (g, b)) : ∃ i : Nat, x.nodes[i]? = some n := by
  obtain ⟨o, ns, hl, hmem⟩ := h.tree.home hn
  cases (listing?_of_graph? hg).symm.trans hl
  exact List.getElem?_of_mem hmem

theorem resolved_tour {e : Edge} (hs : Stop.edge depth g e ∈ tour d) : ∃ (x : Graph) (i j : Nat),
    d.graph? g = some x ∧ x.nodes[i]? = some e.source ∧ x.nodes[j]? = some e.target ∧
    (Stop.edge depth g e).lines d = [indent (depth + 1) ++
      ("[" ++ toString i ++ "]" ++ "." ++ e.output ++ arrow e.kind ++
        ("[" ++ toString j ++ "]") ++ "." ++ e.input)] := by
  obtain ⟨x, hx, he⟩ := edge_of_mem_tour h hs
  have hjoins := h.wired (edges?_of_graph? hx) e he
  obtain ⟨b, hsource⟩ := hjoins.source
  obtain ⟨c, htarget⟩ := hjoins.target
  obtain ⟨i, hi⟩ := exists_getElem?_of_place h hx hsource
  obtain ⟨j, hj⟩ := exists_getElem?_of_place h hx htarget
  refine ⟨x, i, j, hx, hi, hj, ?_⟩
  rw [Stop.lines, hx, Option.elim_some, edgeLine, place_eq (h.nodup_nodes hx) hi,
    place_eq (h.nodup_nodes hx) hj]

theorem covers_tour : Covers d (tour d) where
  graphs := graphs_tour h
  nodes := nodes_tour h
  housed _ _ _ _ hs := node?_of_mem_tour h hs
  numbered _ _ hg := nodeIn?_tour h hg
  edges _ _ hg := edgeIn?_tour h hg
  resolved _ _ _ hs := resolved_tour h hs

/-- A walk over a valid document comes to an end, and an outline is written on it. -/
theorem walks_iff {ss : List Stop} : Walks d .root 0 ss ↔ ss = tour d := by
  have htour : Walks d .root 0 (tour d) := walks_stops h (countGraphs_le_size ..) 0
  exact ⟨fun hss => hss.unique htour, fun hss => hss ▸ htour⟩

end

/-! ## Paths -/

/-- Locating a node: by its place in its graph, after the path of the owner of the graph. -/
inductive Locates (d : Document) : NodeId → Option String → Prop
  | noNode {n : NodeId} (hn : d.node? n = none) : Locates d n none
  | noGraph {n : NodeId} {y : Node} (hn : d.node? n = some y) (hg : d.graph? y.graph = none) :
    Locates d n none
  | unlisted {n : NodeId} {y : Node} {x : Graph} (hn : d.node? n = some y)
      (hg : d.graph? y.graph = some x) (hi : x.indexOf? n = none) : Locates d n none
  | top {n : NodeId} {y : Node} {x : Graph} {i : Nat} (hn : d.node? n = some y)
      (hg : d.graph? y.graph = some x) (hi : x.indexOf? n = some i) (ho : x.owner = none) :
    Locates d n (some (x.title ++ "/[" ++ toString i ++ "]"))
  | inner {n o : NodeId} {y : Node} {x : Graph} {i : Nat} {path : Option String}
      (hn : d.node? n = some y) (hg : d.graph? y.graph = some x) (hi : x.indexOf? n = some i)
      (ho : x.owner = some o) (hp : Locates d o path) :
    Locates d n (some (path.elim "" (· ++ "/") ++ (x.title ++ "/[" ++ toString i ++ "]")))

/-- A node has one path. -/
theorem Locates.unique {n : NodeId} {p q : Option String} (hp : Locates d n p)
    (hq : Locates d n q) : p = q := by
  induction hp generalizing q with
  | noNode | noGraph | unlisted | top => cases hq <;> simp_all
  | inner hn hg hi ho _ ih =>
    cases hq with
    | inner hn' hg' hi' ho' hp' =>
      cases hn.symm.trans hn'
      cases hg.symm.trans hg'
      cases hi.symm.trans hi'
      cases ho.symm.trans ho'
      rw [ih hp']
    | noNode | noGraph | unlisted | top => simp_all

section
variable (h : d.Valid)
include h

theorem locates_pathWithin {n : NodeId}
    (hlevels : ∀ y, d.node? n = some y → d.earlier y.graph ≤ levels) :
    Locates d n (pathWithin d levels n) := by
  induction levels generalizing n with
  | zero =>
    cases hn : d.node? n with
    | none => exact .noNode hn
    | some y =>
      obtain ⟨x, hg⟩ := h.housed.graph n y hn
      exact absurd (earlier_pos hg) (Nat.not_lt_of_le (hlevels y hn))
  | succ levels ih =>
    cases hn : d.node? n with
    | none =>
      rw [pathWithin, hn]
      exact .noNode hn
    | some y =>
      obtain ⟨x, hg⟩ := h.housed.graph n y hn
      cases hi : x.indexOf? n with
      | none =>
        simp only [pathWithin, hn, hg, hi, bind, Option.bind_some, Option.bind_none]
        exact .unlisted hn hg hi
      | some i =>
        simp only [pathWithin, hn, hg, hi, bind, Option.bind_some, pure]
        cases ho : x.owner with
        | none =>
          simp only [Option.bind_none, Option.elim_none, String.empty_append]
          exact .top hn hg hi ho
        | some o =>
          -- the graph of the owner is just outside, and fewer graphs are as old
          refine .inner hn hg hi ho (ih fun z hz => ?_)
          have houter : d.outer? y.graph = some z.graph :=
            outer?_eq_some_iff.2 ⟨x, o, z, hg, ho, hz, rfl⟩
          have hlt := h.earlier_lt hg houter
          have hle := hlevels y hn
          omega

/-- Locating a node of a valid document comes to an end, with the path that an outline gives. -/
theorem locates_iff {n : NodeId} {p : Option String} : Locates d n p ↔ p = path? d n := by
  have hpath : Locates d n (path? d n) := locates_pathWithin h fun y _ => countGraphs_le_size ..
  exact ⟨fun hp => hp.unique hpath, fun hp => hp ▸ hpath⟩

/-- Live nodes have paths. -/
theorem exists_path {n : NodeId} {g : GraphId} {b : Option GraphId}
    (hn : d.place? n = some (g, b)) : ∃ path, path? d n = some path := by
  obtain ⟨y, hy, rfl, -⟩ := node?_of_place? hn
  obtain ⟨x, hg⟩ := h.housed.graph n y hy
  obtain ⟨i, hi⟩ := exists_getElem?_of_place h hg hn
  have hindex := indexOf?_eq (h.nodup_nodes hg) hi
  cases ho : x.owner with
  | none => exact ⟨_, ((locates_iff h).1 (.top hy hg hindex ho)).symm⟩
  | some o => exact ⟨_, ((locates_iff h).1 (.inner hy hg hindex ho ((locates_iff h).2 rfl))).symm⟩

/-- Each selected node has a path, and the last line names them. -/
theorem exists_paths : ∃ paths, d.selection.map (path? d) = paths.map some ∧
    selectionLine d =
      "selected " ++ if paths.isEmpty then "nothing" else ", ".intercalate paths := by
  refine ⟨d.selection.filterMap (path? d), ?_, rfl⟩
  have hsome : ∀ n ∈ d.selection, (path? d n).map some = some (path? d n) := fun n hn => by
    obtain ⟨g, b, hp⟩ := h.selected n hn
    obtain ⟨path, hpath⟩ := exists_path h hp
    rw [hpath]
    rfl
  rw [List.map_filterMap, List.filterMap_congr hsome, List.filterMap_eq_map']

end

/-- An outline is written on a walk that comes to an end, once by each live graph, by each live node
and by each edge, with the paths of all selected nodes on the last line. -/
theorem outline_covers (h : d.Reachable) :
    (∀ ss, Walks d .root 0 ss ↔ ss = tour d) ∧ Covers d (tour d) ∧
      (∀ n p, Locates d n p ↔ p = path? d n) ∧
      ∃ paths, d.selection.map (path? d) = paths.map some ∧
        d.outlineLines = (tour d).flatMap (·.lines d) ++ sharedLines d ++
          ["selected " ++ if paths.isEmpty then "nothing" else ", ".intercalate paths] := by
  obtain ⟨paths, hpaths, hline⟩ := exists_paths h.valid
  refine ⟨fun ss => walks_iff h.valid, covers_tour h.valid, fun n p => locates_iff h.valid, paths,
    hpaths, ?_⟩
  rw [outlineLines, graphLines_eq, hline]
  rfl

/-- A walk through a composite in a composite. -/
theorem outline_covers_twofold : twofold.Reachable ∧ Covers twofold (tour twofold) ∧
    (tour twofold).filterMap Stop.graph? = [.root, ⟨1⟩, ⟨2⟩] ∧
    (tour twofold).filterMap Stop.node? = [⟨0⟩, ⟨1⟩, ⟨2⟩, ⟨3⟩, ⟨4⟩] ∧
    ∃ paths : List String, twofold.selection.map (path? twofold) = paths.map some ∧
      paths.head? = some "Main/[1]/Outer/[0]/Inner/[0]" := by
  have hreachable : twofold.Reachable := ⟨"Main", _, rfl⟩
  obtain ⟨-, hcovers, -, paths, hpaths, -⟩ := outline_covers hreachable
  refine ⟨hreachable, hcovers, by decide +kernel, by decide +kernel, paths, hpaths, ?_⟩
  have hhead : (twofold.selection.map (path? twofold)).head? =
      some (some "Main/[1]/Outer/[0]/Inner/[0]") := by decide +kernel
  rw [hpaths, List.head?_map] at hhead
  simpa using hhead

end GraphDraft.Outline
