import GraphDraft.Layout
import GraphDraft.Proofs.Document.Edits
import GraphDraft.Proofs.Document.Nesting
import Mathlib.Logic.Function.Iterate

/-!
# Nudging a node clear

A node that is nudged goes straight down, and looks before each step whether another node of its
graph is too near (`Crowded`). It stops at the first position that is clear, or when it has made all
the steps that it may make, and nothing but its position changes (`Settles`, `spaceOut_settles`).
-/

namespace GraphDraft.Layout

open Document

/-- A position after some nudges. -/
def nudged (count : Nat) (p : Point) : Point :=
  (· + nudge)^[count] p

/-- Another node of its graph would be too near to a node at a position. -/
def Crowded (d : Document) (n : NodeId) (p : Point) : Prop :=
  ∃ x m y, d.node? n = some x ∧ d.node? m = some y ∧ m ≠ n ∧ y.graph = x.graph ∧
    y.position.distance p < clearance

/-- Node `n` has gone down from `start` by `count` nudges, of at most `limit`, because it was crowded
wherever it was before. Of document `d`, nothing else is different in `e`. -/
structure Settles (d : Document) (n : NodeId) (start : Point) (limit count : Nat) (e : Document) :
    Prop where
  le : count ≤ limit
  crowded : ∀ i < count, Crowded d n (nudged i start)
  clear : count < limit → ¬Crowded d n (nudged count start)
  moved : e = { d with
    nodes := d.nodes.modify n fun x => { x with position := nudged count start }
    revision := d.revision + count }

variable {d : Document} {n : NodeId} {x : Node}

theorem crowded_iff (hn : d.node? n = some x) {p : Point} : Crowded d n p ↔
    ∃ m y, d.node? m = some y ∧ m ≠ n ∧ y.graph = x.graph ∧ y.position.distance p < clearance := by
  constructor
  · rintro ⟨z, m, y, hz, hrest⟩
    cases hn.symm.trans hz
    exact ⟨m, y, hrest⟩
  · rintro ⟨m, y, hrest⟩
    exact ⟨x, m, y, hn, hrest⟩

theorem overlaps_iff (h : d.Valid) (hn : d.node? n = some x) :
    overlaps d n = true ↔ Crowded d n x.position := by
  obtain ⟨z, hz⟩ := h.housed.graph n x hn
  simp only [overlaps, hn, crowded_iff hn, List.any_eq_true, Prod.exists, h.mem_nodesIn_iff hz,
    Bool.and_eq_true, decide_eq_true_eq]
  refine exists_congr fun m => exists_congr fun y => ?_
  tauto

theorem node?_setPosition (hn : d.node? n = some x) (p : Point) (m : NodeId) :
    (d.setPosition n p).node? m =
      if m = n then some { x with position := p } else d.node? m := by
  rw [setPosition, if_pos (Store.contains_iff.2 ⟨x, hn⟩)]
  refine (Store.get?_modify ..).trans ?_
  split
  · subst m
    exact congrArg (Option.map _) hn
  · rfl

/-- What is too near to a node does not depend on where the node is. -/
theorem crowded_setPosition (hn : d.node? n = some x) (p q : Point) :
    Crowded (d.setPosition n p) n q ↔ Crowded d n q := by
  have hmoved := (node?_setPosition hn p n).trans (if_pos rfl)
  rw [crowded_iff hmoved, crowded_iff hn]
  refine exists_congr fun m => exists_congr fun y => ?_
  by_cases hm : m = n
  · simp [hm]
  · rw [node?_setPosition hn, if_neg hm]

theorem Settles.stay (h : d.Valid) (hn : d.node? n = some x) {limit : Nat}
    (hclear : 0 < limit → ¬Crowded d n x.position) : Settles d n x.position limit 0 d where
  le := Nat.zero_le _
  crowded i hi := absurd hi (Nat.not_lt_zero i)
  clear := hclear
  moved := by
    rw [Store.modify_eq_self h.nodes fun y hy => ?_]
    · rfl
    · cases hn.symm.trans hy
      rfl

theorem Settles.step (hn : d.node? n = some x) (hcrowded : Crowded d n x.position)
    {limit count : Nat} {e : Document}
    (hs : Settles (d.setPosition n (x.position + nudge)) n (x.position + nudge) limit count e) :
    Settles d n x.position (limit + 1) (count + 1) e where
  le := Nat.succ_le_succ hs.le
  crowded i hi := by
    cases i with
    | zero => exact hcrowded
    | succ i => exact (crowded_setPosition hn ..).1 (hs.crowded i (Nat.lt_of_succ_lt_succ hi))
  clear hlt hagain :=
    hs.clear (Nat.lt_of_succ_lt_succ hlt) ((crowded_setPosition hn ..).2 hagain)
  moved := by
    rw [hs.moved, setPosition, if_pos (Store.contains_iff.2 ⟨x, hn⟩)]
    simp only [touch, mapPosition, Store.modify_modify, Nat.add_assoc, Nat.add_comm 1]
    rfl

/-- Each nudge is made because the node is crowded where it is. -/
theorem nudgeClear_settles (h : d.Valid) (hn : d.node? n = some x) (limit : Nat) :
    Settles d n x.position limit (nudgeClear limit n d).1 (nudgeClear limit n d).2 := by
  induction limit generalizing d x with
  | zero => exact .stay h hn fun hlt => absurd hlt (Nat.lt_irrefl 0)
  | succ limit ih =>
    rw [nudgeClear, hn]
    split
    · rename_i hover
      have hmoved := (node?_setPosition hn (x.position + nudge) n).trans (if_pos rfl)
      exact .step hn ((overlaps_iff h hn).1 hover) (ih (h.setPosition n _) hmoved)
    · rename_i hover
      exact .stay h hn fun _ => mt (overlaps_iff h hn).2 hover

/-- A live node settles below where it was, at the first position that is clear if there is one
within the limit, and nothing else changes. -/
theorem spaceOut_settles (h : d.Reachable) (hn : d.node? n = some x) :
    Settles d n x.position nudgeLimit (spaceOut d n).1 (spaceOut d n).2 :=
  nudgeClear_settles h.valid hn nudgeLimit

/-- Two nodes, one half the clearance below the other. -/
def overlapping : Document :=
  Operation.runAll
    [.addNode .root { kind := .unit "Upper", title := "Upper" } .origin,
     .addNode .root { kind := .unit "Lower", title := "Lower" } ⟨0, 50⟩]
    (.empty "Main")

/-- The lower node is clear after five nudges. -/
theorem spaceOut_settles_overlapping : overlapping.Reachable ∧
    (∃ x, overlapping.node? ⟨1⟩ = some x ∧
      Settles overlapping ⟨1⟩ x.position nudgeLimit 5 (spaceOut overlapping ⟨1⟩).2) ∧
    nudged 5 ⟨0, 50⟩ = ⟨0, 100⟩ := by
  have hreachable : overlapping.Reachable := ⟨"Main", _, rfl⟩
  obtain ⟨x, hx⟩ : ∃ x, overlapping.node? ⟨1⟩ = some x := ⟨_, rfl⟩
  have hcount : (spaceOut overlapping ⟨1⟩).1 = 5 := by decide +kernel
  refine ⟨hreachable, ⟨x, hx, ?_⟩, by decide +kernel⟩
  exact hcount ▸ spaceOut_settles hreachable hx

end GraphDraft.Layout
