import GraphDraft.Outline
import GraphDraft.Proofs.Document.Nesting

/-!
# Walks over documents

A walk over a document goes through a graph, its nodes in order, each with its body, and its edges.
`Walks` is this recursion without a bound on its depth; `stops` is it with a bound, as an outline
has it (`graphLines_eq`). In a valid document the walk comes to an end, since going inwards the
graphs get younger, and the bound makes no difference (`walks_stops`).

A walk from a graph comes once by each graph within it, and there by what the graph lists
(`filter_home_stops`).
-/

namespace GraphDraft.Outline

open Document

/-! ## Walks -/

/-- What a walk comes by under the heading of a graph: the heading, a node with its number, or an
edge. -/
inductive Stop where
  | graph (depth : Nat) (g : GraphId)
  | node (depth : Nat) (g : GraphId) (index : Nat) (n : NodeId)
  | edge (depth : Nat) (g : GraphId) (e : Edge)
deriving DecidableEq, Repr

namespace Stop

/-- The graph under whose heading a stop stands. -/
def home : Stop → GraphId
  | graph _ g | node _ g _ _ | edge _ g _ => g

def graph? : Stop → Option GraphId
  | graph _ g => some g
  | _ => none

def node? : Stop → Option NodeId
  | node _ _ _ n => some n
  | _ => none

/-- A node under the heading of a graph, with its number. -/
def nodeIn? (g : GraphId) : Stop → Option (NodeId × Nat)
  | node _ k i n => if k = g then some (n, i) else none
  | _ => none

/-- An edge under the heading of a graph. -/
def edgeIn? (g : GraphId) : Stop → Option Edge
  | edge _ k e => if k = g then some e else none
  | _ => none

/-- The lines that are written at a stop. -/
def lines (d : Document) : Stop → List String
  | graph depth g => (d.graph? g).elim [] fun x =>
    (indent depth ++ "graph " ++ Text.quoted x.title) ::
      x.definitions.map (indent (depth + 1) ++ definitionLine ·) ++
      x.declarations.entries.map (indent (depth + 1) ++ variableLine ·)
  | node depth _ i n => (d.node? n).elim [] fun y =>
    (indent (depth + 1) ++ nodeLine i y) :: (heldLines y).map (indent (depth + 2) ++ ·)
  | edge depth g e => (d.graph? g).elim [] fun x => [indent (depth + 1) ++ edgeLine x e]

end Stop

mutual

/-- Walking through a graph: by its heading, through its nodes, and by its edges. -/
inductive Walks (d : Document) : GraphId → Nat → List Stop → Prop
  | unknown {g : GraphId} {depth : Nat} (hg : d.graph? g = none) : Walks d g depth []
  | known {g : GraphId} {depth : Nat} {x : Graph} {stops : List Stop} (hg : d.graph? g = some x)
      (hns : WalksNodes d g depth (d.nodesIn g).zipIdx stops) :
    Walks d g depth (.graph depth g :: stops ++ x.edges.map (.edge depth g))

/-- Walking through numbered nodes of a graph: by each node, and through its body if it has one. -/
inductive WalksNodes (d : Document) :
    GraphId → Nat → List ((NodeId × Node) × Nat) → List Stop → Prop
  | nil {g : GraphId} {depth : Nat} : WalksNodes d g depth [] []
  | plain {g : GraphId} {depth i : Nat} {n : NodeId} {y : Node}
      {ns : List ((NodeId × Node) × Nat)} {stops : List Stop} (hb : y.body = none)
      (hns : WalksNodes d g depth ns stops) :
    WalksNodes d g depth (((n, y), i) :: ns) (.node depth g i n :: stops)
  | composite {g b : GraphId} {depth i : Nat} {n : NodeId} {y : Node}
      {ns : List ((NodeId × Node) × Nat)} {inner stops : List Stop} (hb : y.body = some b)
      (hg : Walks d b (depth + 2) inner) (hns : WalksNodes d g depth ns stops) :
    WalksNodes d g depth (((n, y), i) :: ns) (.node depth g i n :: inner ++ stops)

end

mutual

/-- A walk has one outcome. -/
theorem Walks.unique {d : Document} {g : GraphId} {depth : Nat} {ss ts : List Stop} :
    Walks d g depth ss → Walks d g depth ts → ss = ts
  | .unknown hg, h => by
    cases h with
    | unknown => rfl
    | known hg' => cases hg.symm.trans hg'
  | .known hg hns, h => by
    cases h with
    | unknown hg' => cases hg.symm.trans hg'
    | known hg' hns' =>
      cases hg.symm.trans hg'
      rw [hns.unique hns']

theorem WalksNodes.unique {d : Document} {g : GraphId} {depth : Nat}
    {ns : List ((NodeId × Node) × Nat)} {ss ts : List Stop} :
    WalksNodes d g depth ns ss → WalksNodes d g depth ns ts → ss = ts
  | .nil, h => by cases h; rfl
  | .plain hb hns, h => by
    cases h with
    | plain _ hns' => rw [hns.unique hns']
    | composite hb' => cases hb.symm.trans hb'
  | .composite hb hg hns, h => by
    cases h with
    | plain hb' => cases hb.symm.trans hb'
    | composite hb' hg' hns' =>
      cases hb.symm.trans hb'
      rw [hg.unique hg', hns.unique hns']

end

/-- The stops of a walk that goes down to `levels` levels. -/
def stops (d : Document) : (levels : Nat) → GraphId → (depth : Nat) → List Stop
  | 0, _, _ => []
  | levels + 1, g, depth =>
    match d.graph? g with
    | none => []
    | some x =>
      .graph depth g ::
        ((d.nodesIn g).zipIdx.flatMap fun ((n, y), i) =>
          .node depth g i n :: y.body.elim [] fun b => stops d levels b (depth + 2)) ++
        x.edges.map (.edge depth g)

variable {d : Document} {g k : GraphId} {x : Graph} {levels depth : Nat}

/-- What a node makes of a walk down to `levels` levels. -/
def nodeStops (d : Document) (levels : Nat) (g : GraphId) (depth : Nat)
    (p : (NodeId × Node) × Nat) : List Stop :=
  .node depth g p.2 p.1.1 :: p.1.2.body.elim [] fun b => stops d levels b (depth + 2)

theorem stops_of_known (hg : d.graph? g = some x) : stops d (levels + 1) g depth =
    .graph depth g :: (d.nodesIn g).zipIdx.flatMap (nodeStops d levels g depth) ++
      x.edges.map (.edge depth g) := by
  rw [stops, hg]
  rfl

theorem stops_of_unknown (hg : d.graph? g = none) : stops d levels g depth = [] := by
  cases levels with
  | zero => rfl
  | succ levels => rw [stops, hg]

/-- The lines of a graph are those that are written at the stops. -/
theorem graphLines_eq (levels : Nat) (g : GraphId) (depth : Nat) :
    graphLines d levels g depth = (stops d levels g depth).flatMap (·.lines d) := by
  induction levels generalizing g depth with
  | zero => rfl
  | succ levels ih =>
    cases hg : d.graph? g with
    | none => rw [graphLines, hg, stops_of_unknown hg, List.flatMap_nil]
    | some x =>
      have hnode : ∀ p ∈ (d.nodesIn g).zipIdx,
          (nodeStops d levels g depth p).flatMap (·.lines d) =
            (indent (depth + 1) ++ nodeLine p.2 p.1.2) ::
              (heldLines p.1.2).map (indent (depth + 2) ++ ·) ++
              p.1.2.body.elim [] fun b => graphLines d levels b (depth + 2) := fun p hp => by
        have hn := node?_of_mem_nodesIn (List.fst_mem_of_mem_zipIdx hp)
        rw [nodeStops, List.flatMap_cons, Stop.lines, hn]
        cases p.1.2.body with
        | none => rfl
        | some b => simp only [Option.elim_some, ih]
      have hedges : (x.edges.map (Stop.edge depth g)).flatMap (·.lines d) =
          x.edges.map (indent (depth + 1) ++ edgeLine x ·) := by
        simp only [List.flatMap_map, Stop.lines, hg, Option.elim_some]
        exact List.map_eq_flatMap.symm
      rw [graphLines, hg, stops_of_known hg, List.flatMap_append, List.flatMap_cons, hedges,
        List.flatMap_assoc, List.flatMap_congr hnode, Stop.lines, hg]
      simp

/-! ## Walks come to an end -/

theorem walksNodes_flatMap {ns : List ((NodeId × Node) × Nat)}
    (h : ∀ p ∈ ns, ∀ b, p.1.2.body = some b →
      Walks d b (depth + 2) (stops d levels b (depth + 2))) :
    WalksNodes d g depth ns (ns.flatMap (nodeStops d levels g depth)) := by
  induction ns with
  | nil => exact .nil
  | cons p ns ih =>
    obtain ⟨⟨n, y⟩, i⟩ := p
    have hns := ih fun q hq => h q (List.mem_cons_of_mem _ hq)
    rw [List.flatMap_cons, nodeStops]
    cases hb : y.body with
    | none => exact .plain hb hns
    | some b => exact .composite hb (h _ List.mem_cons_self b hb) hns

section
variable (h : d.Valid)
include h

/-- A body of a node that a graph shows is just inside the graph. -/
theorem outer?_of_mem_zipIdx (hg : d.graph? g = some x) {p : (NodeId × Node) × Nat} {b : GraphId}
    (hp : p ∈ (d.nodesIn g).zipIdx) (hb : p.1.2.body = some b) : d.outer? b = some g := by
  obtain ⟨hn, hgraph⟩ := (h.mem_nodesIn_iff hg).1 (List.fst_mem_of_mem_zipIdx hp)
  rw [h.outer?_body hn hb, hgraph]

/-- A walk comes to an end if the bound is not below the number of graphs that come later. -/
theorem walks_stops (hlevels : d.later g ≤ levels) (depth : Nat) :
    Walks d g depth (stops d levels g depth) := by
  induction levels generalizing g depth with
  | zero =>
    cases hg : d.graph? g with
    | none => exact .unknown hg
    | some x => exact absurd (later_pos hg) (Nat.not_lt_of_le hlevels)
  | succ levels ih =>
    cases hg : d.graph? g with
    | none =>
      rw [stops_of_unknown hg]
      exact .unknown hg
    | some x =>
      rw [stops_of_known hg]
      refine .known hg (walksNodes_flatMap fun p hp b hb => ih ?_ _)
      have hlt := h.later_lt hg (outer?_of_mem_zipIdx h hg hp hb)
      omega

/-! ## What a walk comes by -/

theorem within_of_mem_stops {s : Stop} (hs : s ∈ stops d levels g depth) :
    (∃ y, d.graph? s.home = some y) ∧ d.Within s.home g := by
  induction levels generalizing g depth with
  | zero => simp [stops] at hs
  | succ levels ih =>
    cases hg : d.graph? g with
    | none => simp [stops_of_unknown hg] at hs
    | some x =>
      have hself : s.home = g → (∃ y, d.graph? s.home = some y) ∧ d.Within s.home g := by
        rintro rfl
        exact ⟨⟨x, hg⟩, .refl⟩
      rw [stops_of_known hg, List.cons_append, List.mem_cons, List.mem_append, List.mem_flatMap,
        List.mem_map] at hs
      rcases hs with rfl | ⟨p, hp, hs⟩ | ⟨e, -, rfl⟩
      · exact hself rfl
      · rcases List.mem_cons.1 hs with rfl | hs
        · exact hself rfl
        · cases hb : p.1.2.body with
          | none => simp [hb] at hs
          | some b =>
            rw [hb, Option.elim_some] at hs
            obtain ⟨hlive, hw⟩ := ih hs
            exact ⟨hlive, hw.tail (outer?_of_mem_zipIdx h hg hp hb)⟩
      · exact hself rfl

theorem filter_home_of_not_within (hk : ¬d.Within k g) :
    (stops d levels g depth).filter (·.home = k) = [] := by
  refine List.filter_eq_nil_iff.2 fun s hs hhome => hk ?_
  exact of_decide_eq_true hhome ▸ (within_of_mem_stops h hs).2

end

/-- What stands under the heading of a graph, at a depth. -/
def ownStops (d : Document) (g : GraphId) (x : Graph) (depth : Nat) : List Stop :=
  .graph depth g :: (d.nodesIn g).zipIdx.map (fun p => .node depth g p.2 p.1.1) ++
    x.edges.map (.edge depth g)

/-- If all but one element give nothing, the one gives everything. -/
theorem flatMap_eq_of_only {α β : Type} {l : List α} {f : α → List β} (hl : l.Nodup) {a : α}
    (ha : a ∈ l) (h : ∀ b ∈ l, b ≠ a → f b = []) : l.flatMap f = f a := by
  induction l with
  | nil => simp at ha
  | cons c l ih =>
    obtain ⟨hc, hl⟩ := List.nodup_cons.1 hl
    rw [List.flatMap_cons]
    rcases List.mem_cons.1 ha with rfl | ha
    · have hnil : l.flatMap f = [] := List.flatMap_eq_nil_iff.2 fun b hb =>
        h b (List.mem_cons_of_mem _ hb) fun hba => hc (hba ▸ hb)
      rw [hnil, List.append_nil]
    · rw [h c List.mem_cons_self fun hca => hc (hca ▸ ha), List.nil_append]
      exact ih hl ha fun b hb => h b (List.mem_cons_of_mem _ hb)

theorem nodup_zipIdx {α : Type} (l : List α) : l.zipIdx.Nodup := by
  refine .of_map Prod.snd ?_
  rw [List.zipIdx_map_snd]
  exact List.nodup_range'

section
variable (h : d.Valid)
include h

/-- Under its own heading a walk has all that a graph lists; the bodies have headings of their
own. -/
theorem filter_home_self (hg : d.graph? g = some x) :
    (stops d (levels + 1) g depth).filter (·.home = g) = ownStops d g x depth := by
  have hnode : ∀ p ∈ (d.nodesIn g).zipIdx,
      (nodeStops d levels g depth p).filter (·.home = g) = [.node depth g p.2 p.1.1] := by
    intro p hp
    rw [nodeStops, List.filter_cons_of_pos (by simp [Stop.home])]
    cases hb : p.1.2.body with
    | none => rfl
    | some b =>
      -- a body is younger than the graph, which so is not nested in it
      have hlt := h.outer_lt (outer?_of_mem_zipIdx h hg hp hb)
      have hnot : ¬d.Within g b := fun hw => Nat.not_le_of_lt hlt (Within.index_le h hw)
      rw [Option.elim_some, filter_home_of_not_within h hnot]
  have hedges : (x.edges.map (Stop.edge depth g)).filter (·.home = g) =
      x.edges.map (.edge depth g) := by
    refine List.filter_eq_self.2 fun s hs => ?_
    obtain ⟨e, -, rfl⟩ := List.mem_map.1 hs
    exact decide_eq_true rfl
  rw [stops_of_known hg, ownStops, List.filter_append,
    List.filter_cons_of_pos (by simp [Stop.home]), List.filter_flatMap, List.flatMap_congr hnode,
    hedges, ← List.map_eq_flatMap]

/-- A body is that of one of the nodes that a graph shows. -/
theorem eq_of_body {p q : (NodeId × Node) × Nat} (hg : d.graph? g = some x)
    (hp : p ∈ (d.nodesIn g).zipIdx) (hq : q ∈ (d.nodesIn g).zipIdx) {b : GraphId}
    (hpb : p.1.2.body = some b) (hqb : q.1.2.body = some b) : p = q := by
  have hpn := node?_of_mem_nodesIn (List.fst_mem_of_mem_zipIdx hp)
  have hqn := node?_of_mem_nodesIn (List.fst_mem_of_mem_zipIdx hq)
  have hnode : p.1.1 = q.1.1 := h.owner_unique hpn hqn hpb hqb
  have hfst : p.1 = q.1 := by
    rw [hnode, hqn] at hpn
    exact Prod.ext hnode (Option.some.inj hpn).symm
  have hpi := List.mem_zipIdx_iff_getElem?.1 hp
  have hqi := List.mem_zipIdx_iff_getElem?.1 hq
  obtain ⟨hlt, -⟩ := List.getElem?_eq_some_iff.1 hpi
  have hsnd := (List.getElem?_inj hlt (h.nodup_nodesIn hg)).1 (hpi.trans (hfst ▸ hqi.symm))
  exact Prod.ext hfst hsnd

/-- A graph that is nested in another one is met within one body, and nowhere else. -/
theorem filter_home_nested (hg : d.graph? g = some x) (hne : k ≠ g) {b : GraphId}
    (hb : d.outer? b = some g) (hw : d.Within k b) :
    (stops d (levels + 1) g depth).filter (·.home = k) =
      (stops d levels b (depth + 2)).filter (·.home = k) := by
  have hskip : ∀ (s : Stop) (ss : List Stop), s.home = g →
      (s :: ss).filter (·.home = k) = ss.filter (·.home = k) := fun s ss hs =>
    List.filter_cons_of_neg fun hk => hne ((of_decide_eq_true hk).symm.trans hs)
  obtain ⟨n, y, hn, hgraph, hbody⟩ := h.exists_body hb
  have hmem : (n, y) ∈ d.nodesIn g := (h.mem_nodesIn_iff hg).2 ⟨hn, hgraph⟩
  obtain ⟨i, hi⟩ := List.getElem?_of_mem hmem
  have hp : ((n, y), i) ∈ (d.nodesIn g).zipIdx := List.mem_zipIdx_iff_getElem?.2 hi
  have hother : ∀ q ∈ (d.nodesIn g).zipIdx, q ≠ ((n, y), i) →
      (nodeStops d levels g depth q).filter (·.home = k) = [] := by
    intro q hq hqp
    rw [nodeStops, hskip (.node ..) _ rfl]
    cases hqb : q.1.2.body with
    | none => rfl
    | some c =>
      -- the graph is nested in one body only, and that body has one owner
      refine filter_home_of_not_within h fun hwc => hqp ?_
      have hcb : c = b := h.siblings hwc hw (outer?_of_mem_zipIdx h hg hq hqb) hb
      exact eq_of_body h hg hq hp (hcb ▸ hqb) hbody
  have hedges : (x.edges.map (Stop.edge depth g)).filter (·.home = k) = [] := by
    refine List.filter_eq_nil_iff.2 fun s hs hk => ?_
    obtain ⟨e, -, rfl⟩ := List.mem_map.1 hs
    exact hne (of_decide_eq_true hk).symm
  rw [stops_of_known hg, List.filter_append, hedges, List.append_nil,
    hskip (.graph ..) _ rfl, List.filter_flatMap, flatMap_eq_of_only (nodup_zipIdx _) hp hother,
    nodeStops, hskip (.node ..) _ rfl, hbody, Option.elim_some]

/-- A walk comes once by each graph within the one it starts from. -/
theorem filter_home_stops {z : Graph} (hk : d.graph? k = some z) (hw : d.Within k g)
    (hlevels : d.later g ≤ levels) (depth : Nat) :
    ∃ depth', (stops d levels g depth).filter (·.home = k) = ownStops d k z depth' := by
  induction levels generalizing g depth with
  | zero =>
    obtain ⟨x, hg⟩ := h.graph?_of_within hk hw
    exact absurd (later_pos hg) (Nat.not_lt_of_le hlevels)
  | succ levels ih =>
    obtain ⟨x, hg⟩ := h.graph?_of_within hk hw
    by_cases hne : k = g
    · subst hne
      exact ⟨depth, filter_home_self h hk⟩
    · obtain ⟨b, hb, hwb⟩ := (within_iff.1 hw).resolve_left hne
      have hlt := h.later_lt hg hb
      rw [filter_home_nested h hg hne hb hwb]
      exact ih hwb (by omega) _

end

end GraphDraft.Outline
