import GraphDraft.Proofs.Document.Run

/-!
# Deleting exactly a subtree

Deleting a node deletes its body, and deleting a graph deletes its nodes, each from what the
deletions before have left (`Deletes`). This comes to an end in every document, with one outcome,
which is that of `removeNode` (`deletes_removeWithin`, `Deletes.unique`).

In a reachable document the outcome lacks the node, the nodes inside it and the graphs nested in
it, and the graph of the node lacks the edges that touched it. All else is as before (`Lacks`).
-/

namespace GraphDraft.Document

/-! ## Deletions -/

mutual

/-- Deleting a node answers whether it was there. Its body goes first, then it is taken out of its
graph and out of the selection. -/
inductive Deletes : Document → NodeId → Bool → Document → Prop
  | unknown {d : Document} {n : NodeId} (hn : d.node? n = none) : Deletes d n false d
  | plain {d : Document} {n : NodeId} {x : Node} (hn : d.node? n = some x) (hb : x.body = none) :
    Deletes d n true ({ d with nodes := d.nodes.erase n }.detach n x.graph)
  | composite {d e : Document} {n : NodeId} {x : Node} {b : GraphId} (hn : d.node? n = some x)
      (hb : x.body = some b) (hg : DeletesGraph { d with nodes := d.nodes.erase n } b e) :
    Deletes d n true (e.detach n x.graph)

/-- Deleting a graph deletes the nodes that it lists. -/
inductive DeletesGraph : Document → GraphId → Document → Prop
  | unknown {d : Document} {g : GraphId} (hg : d.graph? g = none) : DeletesGraph d g d
  | known {d e : Document} {g : GraphId} {x : Graph} (hg : d.graph? g = some x)
      (hns : DeletesAll { d with graphs := d.graphs.erase g } x.nodes e) : DeletesGraph d g e

/-- Deleting some nodes one after the other. -/
inductive DeletesAll : Document → List NodeId → Document → Prop
  | nil {d : Document} : DeletesAll d [] d
  | cons {d e f : Document} {n : NodeId} {ns : List NodeId} {found : Bool}
      (hn : Deletes d n found e) (hns : DeletesAll e ns f) : DeletesAll d (n :: ns) f

end

mutual

/-- A deletion has one outcome. -/
theorem Deletes.unique {d e f : Document} {n : NodeId} {a b : Bool} :
    Deletes d n a e → Deletes d n b f → a = b ∧ e = f
  | .unknown hn, h => by
    cases h with
    | unknown => exact ⟨rfl, rfl⟩
    | plain hn' => cases hn.symm.trans hn'
    | composite hn' => cases hn.symm.trans hn'
  | .plain hn hb, h => by
    cases h with
    | unknown hn' => cases hn.symm.trans hn'
    | plain hn' => cases hn.symm.trans hn'; exact ⟨rfl, rfl⟩
    | composite hn' hb' => cases hn.symm.trans hn'; cases hb.symm.trans hb'
  | .composite hn hb hg, h => by
    cases h with
    | unknown hn' => cases hn.symm.trans hn'
    | plain hn' hb' => cases hn.symm.trans hn'; cases hb.symm.trans hb'
    | composite hn' hb' hg' =>
      cases hn.symm.trans hn'
      cases hb.symm.trans hb'
      obtain rfl := hg.unique hg'
      exact ⟨rfl, rfl⟩

theorem DeletesGraph.unique {d e f : Document} {g : GraphId} :
    DeletesGraph d g e → DeletesGraph d g f → e = f
  | .unknown hg, h => by
    cases h with
    | unknown => rfl
    | known hg' => cases hg.symm.trans hg'
  | .known hg hns, h => by
    cases h with
    | unknown hg' => cases hg.symm.trans hg'
    | known hg' hns' =>
      cases hg.symm.trans hg'
      exact hns.unique hns'

theorem DeletesAll.unique {d e f : Document} {ns : List NodeId} :
    DeletesAll d ns e → DeletesAll d ns f → e = f
  | .nil, h => by cases h; rfl
  | .cons hn hns, h => by
    cases h with
    | cons hn' hns' =>
      obtain ⟨-, rfl⟩ := hn.unique hn'
      exact hns.unique hns'

end

/-- What a deletion does to the number of nodes and to the revision: each node that goes is one
revision. -/
structure Counts (d e : Document) : Prop where
  size : e.nodes.size ≤ d.nodes.size
  distinct : d.nodes.Distinct → e.nodes.Distinct
  revision : d.nodes.Distinct → e.revision + e.nodes.size = d.revision + d.nodes.size

namespace Counts

variable {d e f : Document}

theorem refl (d : Document) : d.Counts d :=
  ⟨Nat.le_refl _, id, fun _ => rfl⟩

theorem trans (h : d.Counts e) (h' : e.Counts f) : d.Counts f where
  size := Nat.le_trans h'.size h.size
  distinct hd := h'.distinct (h.distinct hd)
  revision hd := (h'.revision (h.distinct hd)).trans (h.revision hd)

/-- The step of a node that is there, around the deletion of its body. -/
theorem detach {n : NodeId} {x : Node} (hn : d.node? n = some x)
    (h : Counts { d with nodes := d.nodes.erase n } e) (g : GraphId) : d.Counts (e.detach n g) where
  size := Nat.le_trans h.size (Nat.le_of_lt (Store.size_erase_lt hn))
  distinct hd := h.distinct (hd.erase n)
  revision hd := by
    have hsize := Store.size_erase hd hn
    have hrevision : e.revision + e.nodes.size = d.revision + (d.nodes.erase n).size :=
      h.revision (hd.erase n)
    show e.revision + 1 + e.nodes.size = d.revision + d.nodes.size
    omega

end Counts

mutual

theorem Deletes.counts {d e : Document} {n : NodeId} {found : Bool} :
    Deletes d n found e → d.Counts e
  | .unknown _ => .refl d
  | .plain hn _ => .detach hn (.refl _) _
  | .composite hn _ hg => .detach hn hg.counts _

theorem DeletesGraph.counts {d e : Document} {g : GraphId} : DeletesGraph d g e → d.Counts e
  | .unknown _ => .refl d
  | .known _ hns =>
    have h := hns.counts
    ⟨h.size, h.distinct, h.revision⟩

theorem DeletesAll.counts {d e : Document} {ns : List NodeId} : DeletesAll d ns e → d.Counts e
  | .nil => .refl d
  | .cons hn hns => hn.counts.trans hns.counts

end

/-! ## Deletions come to an end -/

theorem deletes_of_unknown {d : Document} {n : NodeId} (hn : d.node? n = none) (depth : Nat) :
    Deletes d n (d.nodes.contains n) (removeWithin depth n d) := by
  have hcontains : d.nodes.contains n = false := by
    rw [Store.contains, show d.nodes.get? n = none from hn, Option.isSome_none]
  have hremove : removeWithin depth n d = d := by
    cases depth with
    | zero => rfl
    | succ depth => rw [removeWithin, hn]
  rw [hcontains, hremove]
  exact .unknown hn

/-- A body that is unknown has nothing to delete. -/
theorem removeWithin_of_lost {d : Document} {depth : Nat} {n : NodeId} {x : Node} {b : GraphId}
    (hn : d.node? n = some x) (hb : x.body = some b) (hg : d.graph? b = none) :
    removeWithin (depth + 1) n d = { d with nodes := d.nodes.erase n }.detach n x.graph := by
  have hg' : graph? { d with nodes := d.nodes.erase n } b = none := hg
  rw [removeWithin, hn]
  simp only [hb, Option.bind_some, hg', Option.map_none]

theorem deletesAll_foldl {depth : Nat} (h : ∀ d n, d.nodes.size ≤ depth →
    Deletes d n (d.nodes.contains n) (removeWithin depth n d)) :
    ∀ (ns : List NodeId) (d : Document), d.nodes.size ≤ depth →
      DeletesAll d ns (ns.foldl (fun e m => removeWithin depth m e) d)
  | [], _, _ => .nil
  | n :: ns, d, hd => by
    have hn := h d n hd
    exact .cons hn (deletesAll_foldl h ns _ (Nat.le_trans hn.counts.size hd))

/-- Each level of a deletion takes a node away, so no deletion goes deeper than their number. -/
theorem deletes_removeWithin (depth : Nat) : ∀ (d : Document) (n : NodeId), d.nodes.size ≤ depth →
    Deletes d n (d.nodes.contains n) (removeWithin depth n d) := by
  induction depth with
  | zero =>
    intro d n hd
    cases hn : d.node? n with
    | none => exact deletes_of_unknown hn _
    | some x => exact absurd (Nat.lt_of_lt_of_le (Store.size_erase_lt hn) hd) (Nat.not_lt_zero _)
  | succ depth ih =>
    intro d n hd
    cases hn : d.node? n with
    | none => exact deletes_of_unknown hn _
    | some x =>
      have hcontains : d.nodes.contains n = true := Store.contains_iff.2 ⟨x, hn⟩
      have hsize : (d.nodes.erase n).size ≤ depth :=
        Nat.le_of_lt_succ (Nat.lt_of_lt_of_le (Store.size_erase_lt hn) hd)
      rw [hcontains]
      cases hb : x.body with
      | none =>
        rw [removeWithin_of_plain hn hb]
        exact .plain hn hb
      | some b =>
        cases hg : d.graph? b with
        | none =>
          rw [removeWithin_of_lost hn hb hg]
          exact .composite hn hb (.unknown hg)
        | some y =>
          rw [removeWithin_of_composite hn hb hg]
          exact .composite hn hb (.known hg (deletesAll_foldl ih y.nodes _ hsize))

/-! ## What is left -/

/-- A node inside `n` owns the graph. -/
def GraphInside (d : Document) (n : NodeId) (g : GraphId) : Prop :=
  ∃ m x, Inside d.place? n m ∧ d.graph? g = some x ∧ x.owner = some m

/-- Document `e` is what is left of `d` without node `n`, which stands in graph `g`, and what is
inside it. -/
structure Lacks (d : Document) (n : NodeId) (g : GraphId) (e : Document) : Prop where
  inside : ∀ m, Inside d.place? n m → e.node? m = none
  outside : ∀ m, ¬Inside d.place? n m → e.node? m = d.node? m
  nested : ∀ k, d.GraphInside n k → e.graph? k = none
  home : ∃ x, d.graph? g = some x ∧ e.graph? g = some (x.without (· = n))
  apart : ∀ k ≠ g, ¬d.GraphInside n k → e.graph? k = d.graph? k
  selection : e.selection = d.selection.filter (!d.inside n ·)
  /-- Each node that is gone is one revision. -/
  revision : e.revision + e.nodes.size = d.revision + d.nodes.size
  rest : e = { d with nodes := e.nodes, graphs := e.graphs, selection := e.selection
                      revision := e.revision }

theorem any_owner_iff {d : Document} {n : NodeId} {g : GraphId} {x : Graph}
    (hx : d.graph? g = some x) :
    x.owner.any (d.inside n) = true ↔ d.GraphInside n g := by
  rw [Option.any_eq_true]
  constructor
  · rintro ⟨m, ho, hin⟩
    exact ⟨m, x, inside_iff.1 hin, hx, ho⟩
  · rintro ⟨m, y, hin, hy, ho⟩
    cases hx.symm.trans hy
    exact ⟨m, ho, inside_iff.2 hin⟩

section
variable {d : Document} (h : d.Valid)
include h

/-- What stands inside a node, other than the node itself, stands in a graph nested in it. -/
theorem eq_or_graphInside {n m : NodeId} {k : GraphId} {b : Option GraphId}
    (hin : Inside d.place? n m) (hm : d.place? m = some (k, b)) : m = n ∨ d.GraphInside n k := by
  cases hin with
  | self => exact .inl rfl
  | @deeper m' _ g k' c hin hm' hk =>
    cases hk.symm.trans hm
    obtain ⟨-, ns, hl⟩ := h.tree.body hm'
    obtain ⟨x, hx, ho, -⟩ := graph?_of_listing? hl
    exact .inr ⟨m', x, hin, hx, ho⟩

/-- No graph is nested in one of its own nodes. -/
theorem not_graphInside_home {n : NodeId} {g : GraphId} {b : Option GraphId}
    (hn : d.place? n = some (g, b)) : ¬d.GraphInside n g := by
  rintro ⟨m, x, hin, hx, ho⟩
  obtain ⟨k, hm⟩ := h.tree.owner (ho ▸ listing?_of_graph? hx)
  have hlt := (h.tree.body hm).1
  rcases hin.index_lt h.tree hn hm with rfl | hlt'
  · cases hn.symm.trans hm
    exact Nat.lt_irrefl _ hlt
  · omega

theorem graph?_removeNode_of_nested {n : NodeId} {k : GraphId} (hk : d.GraphInside n k) :
    (d.removeNode n).graph? k = none := by
  obtain ⟨m, x, hin, hx, ho⟩ := hk
  rw [graph?_removeNode h, hx, Option.bind_some, if_pos ((any_owner_iff hx).2 ⟨m, x, hin, hx, ho⟩)]

/-- The node's own graph loses nothing but the node. -/
theorem graph?_removeNode_home {n : NodeId} {g : GraphId} {b : Option GraphId} {x : Graph}
    (hn : d.place? n = some (g, b)) (hx : d.graph? g = some x) :
    (d.removeNode n).graph? g = some (x.without (· = n)) := by
  have hnested := not_graphInside_home h hn
  rw [graph?_removeNode h, hx, Option.bind_some, if_neg (mt (any_owner_iff hx).1 hnested)]
  refine congrArg some (without_congr h hx fun m c hm => ?_)
  rw [Bool.eq_iff_iff, inside_iff, decide_eq_true_eq]
  constructor
  · exact fun hin => (eq_or_graphInside h hin hm).resolve_right hnested
  · rintro rfl
    exact .self

/-- A graph that is neither nested in the node nor its own loses nothing. -/
theorem graph?_removeNode_apart {n : NodeId} {g k : GraphId} {b : Option GraphId}
    (hn : d.place? n = some (g, b)) (hk : k ≠ g) (hnested : ¬d.GraphInside n k) :
    (d.removeNode n).graph? k = d.graph? k := by
  rw [graph?_removeNode h]
  cases hx : d.graph? k with
  | none => rfl
  | some x =>
    rw [Option.bind_some, if_neg (mt (any_owner_iff hx).1 hnested)]
    refine congrArg some ((without_congr h hx fun m c hm => ?_).trans x.without_nothing)
    refine Bool.eq_false_iff.2 fun hin => ?_
    rcases eq_or_graphInside h (inside_iff.1 hin) hm with rfl | hnested'
    · cases hn.symm.trans hm
      exact hk rfl
    · exact hnested hnested'

theorem lacks_removeNode {n : NodeId} {x : Node} (hn : d.node? n = some x) :
    d.Lacks n x.graph (d.removeNode n) := by
  have hplace := place?_of_node? hn
  obtain ⟨o, ns, hl, -⟩ := h.tree.home hplace
  obtain ⟨y, hy, -⟩ := graph?_of_listing? hl
  have hcounts := (deletes_removeWithin d.nodes.size d n (Nat.le_refl _)).counts
  obtain ⟨r, hr⟩ := removeNode_eq h n
  exact
    { inside := fun m hm => by rw [node?_removeNode h, if_pos (inside_iff.2 hm)]
      outside := fun m hm => by rw [node?_removeNode h, if_neg (mt inside_iff.1 hm)]
      nested := fun k hk => graph?_removeNode_of_nested h hk
      home := ⟨y, hy, graph?_removeNode_home h hplace hy⟩
      apart := fun k hk hnested => graph?_removeNode_apart h hplace hk hnested
      selection := by
        rw [hr]
        rfl
      revision := hcounts.revision h.nodes
      rest := by
        rw [hr]
        rfl }

end

/-- Deleting a node comes to an end in every document, and has the outcome of `removeNode`. An
unknown node is answered with `false`, and nothing changes. In a reachable document, a node goes
with everything inside it and with its edges, and nothing else does. -/
theorem deletes_exactly (d : Document) (n : NodeId) :
    (∀ found e, Deletes d n found e ↔ found = d.nodes.contains n ∧ e = d.removeNode n) ∧
    (d.node? n = none → d.nodes.contains n = false ∧ d.removeNode n = d) ∧
    (d.Reachable → ∀ x, d.node? n = some x →
      d.nodes.contains n = true ∧ d.Lacks n x.graph (d.removeNode n)) := by
  have hdeletes : Deletes d n (d.nodes.contains n) (d.removeNode n) :=
    deletes_removeWithin d.nodes.size d n (Nat.le_refl _)
  refine ⟨fun found e => ⟨fun he => he.unique hdeletes, ?_⟩, fun hn => ?_, fun hr x hx => ?_⟩
  · rintro ⟨rfl, rfl⟩
    exact hdeletes
  · obtain ⟨hfound, hsame⟩ := hdeletes.unique (.unknown hn)
    exact ⟨hfound, hsame⟩
  · exact ⟨Store.contains_iff.2 ⟨x, hx⟩, lacks_removeNode hr.valid hx⟩

/-- A node in the body of a composite in the body of another, and two nodes beside these. -/
def twofold : Document :=
  Operation.runAll
    [.addNode .root
       { kind := .unit "Start", title := "Start", ports := { controlOutputs := ["exit", "skip"] } }
       .origin,
     .addNode .root
       { kind := .subgraph none, title := "Outer"
         body := some ⟨"Outer", [⟨.controlInput, "in", "In", .object⟩,
           ⟨.controlOutput, "out", "Out", .object⟩]⟩ } .origin,
     .addNode ⟨1⟩ { kind := .subgraph none, title := "Inner", body := some ⟨"Inner", []⟩ } .origin,
     .addNode ⟨2⟩ { kind := .unit "Core", title := "Core" } .origin,
     .addNode .root
       { kind := .unit "End", title := "End", ports := { controlInputs := ["enter", "again"] } }
       .origin,
     .connect ⟨.control, ⟨0⟩, "exit", ⟨1⟩, "in"⟩, .connect ⟨.control, ⟨0⟩, "skip", ⟨4⟩, "enter"⟩,
     .connect ⟨.control, ⟨1⟩, "out", ⟨4⟩, "again"⟩, .setSelection [⟨3⟩, ⟨0⟩, ⟨2⟩, ⟨4⟩]]
    (.empty "Main")

/-- Deleting the outer composite takes three nodes and two graphs, and leaves the one edge that
passes it by. -/
theorem deletes_exactly_twofold :
    twofold.Reachable ∧ (∃ x, twofold.node? ⟨1⟩ = some x ∧
      twofold.Lacks ⟨1⟩ x.graph (twofold.removeNode ⟨1⟩)) ∧
      (twofold.removeNode ⟨1⟩).nodes.keys = [⟨0⟩, ⟨4⟩] ∧
      (twofold.removeNode ⟨1⟩).graphs.keys = [.root] ∧
      (twofold.removeNode ⟨1⟩).edges? .root = some [⟨.control, ⟨0⟩, "skip", ⟨4⟩, "enter"⟩] ∧
      (twofold.removeNode ⟨1⟩).selection = [⟨0⟩, ⟨4⟩] ∧
      twofold.node? ⟨5⟩ = none ∧ twofold.removeNode ⟨5⟩ = twofold := by
  have hreachable : twofold.Reachable := ⟨"Main", _, rfl⟩
  obtain ⟨x, hx⟩ : ∃ x, twofold.node? ⟨1⟩ = some x := ⟨_, rfl⟩
  have hunknown : twofold.node? ⟨5⟩ = none := rfl
  obtain ⟨-, -, hlacks⟩ := deletes_exactly twofold ⟨1⟩
  obtain ⟨-, hsame, -⟩ := deletes_exactly twofold ⟨5⟩
  exact ⟨hreachable, ⟨x, hx, (hlacks hreachable x hx).2⟩, by decide +kernel, by decide +kernel,
    by decide +kernel, by decide +kernel, hunknown, (hsame hunknown).2⟩

end GraphDraft.Document
