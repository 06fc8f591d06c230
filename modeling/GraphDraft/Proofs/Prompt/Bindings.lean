import GraphDraft.Prompt.Keymap
import GraphDraft.Proofs.Store
import Mathlib.Data.List.Induction

/-!
# The order of bindings

Two stores with the same bindings may list them in different orders. What is wrong with the bindings
that are not used is told in the same order for both (`Keymap.rejected_eq_of_perm`). A key press
means the same in both unless two bindings are for its key and cause different actions
(`Keymap.Clash`): then the one that stands last is used, and some order changes the meaning
(`Keymap.ofBindings_order`).
-/

namespace GraphDraft.Keymap

variable {bs cs : Store String String} {k : Key} {a : Action}

/-! ## The bindings that are not used -/

theorem pairwise_rejected (bs : Store String String) : (rejected bs).Pairwise (· ≤ ·) := by
  refine (List.pairwise_mergeSort (fun a b c hab hbc => ?_) (fun a b => ?_) _).imp of_decide_eq_true
  · rw [decide_eq_true_eq] at *
    exact String.le_trans hab hbc
  · simpa using String.le_total a b

/-- The bindings that are not used are told in an order that does not depend on theirs. -/
theorem rejected_eq_of_perm (h : cs.entries.Perm bs.entries) : rejected cs = rejected bs := by
  refine List.Perm.eq_of_pairwise (fun a b _ _ => String.le_antisymm) (pairwise_rejected cs)
    (pairwise_rejected bs) ?_
  exact ((List.mergeSort_perm ..).trans (h.filterMap _)).trans (List.mergeSort_perm ..).symm

/-! ## The bindings that are used -/

theorem read_eq_ok_iff {key action : String} : read key action = .ok (k, a) ↔
    Key.ofText? key = some k ∧ Action.ofText? action = some a := by
  rw [read]
  cases Key.ofText? key <;> cases Action.ofText? action <;> simp

/-- One more binding at the end takes its key from those before it. -/
theorem get?_ofBindings_append (es : List (String × String)) (b : String × String) (k : Key) :
    (ofBindings ⟨es ++ [b]⟩).bindings.get? k =
      match read b.1 b.2 with
      | .ok (l, a) => if k = l then some a else (ofBindings ⟨es⟩).bindings.get? k
      | .error _ => (ofBindings ⟨es⟩).bindings.get? k := by
  simp only [ofBindings, List.foldl_append, List.foldl_cons, List.foldl_nil]
  cases read b.1 b.2 with
  | error e => rfl
  | ok ka => exact Store.get?_put ..

/-- The binding that stands last is used. -/
theorem get?_ofBindings_last {b : String × String} (h : read b.1 b.2 = .ok (k, a))
    (es : List (String × String)) : (ofBindings ⟨es ++ [b]⟩).bindings.get? k = some a := by
  simp [get?_ofBindings_append, h]

/-- What a key causes is what one of its bindings says. -/
theorem exists_of_get?_ofBindings (h : (ofBindings bs).bindings.get? k = some a) :
    ∃ b ∈ bs.entries, read b.1 b.2 = .ok (k, a) := by
  obtain ⟨es⟩ := bs
  induction es using List.reverseRecOn with
  | nil => cases h
  | append_singleton es b ih =>
    rw [get?_ofBindings_append] at h
    have hbefore (h : (ofBindings ⟨es⟩).bindings.get? k = some a) :
        ∃ b' ∈ es ++ [b], read b'.1 b'.2 = .ok (k, a) := by
      obtain ⟨c, hc, hread⟩ := ih h
      exact ⟨c, List.mem_append_left _ hc, hread⟩
    split at h
    · rename_i l x hread
      split at h
      · cases h
        subst k
        exact ⟨b, by simp, hread⟩
      · exact hbefore h
    · exact hbefore h

/-- A key that a binding is for causes something. -/
theorem get?_ofBindings_of_mem {b : String × String} (hb : b ∈ bs.entries)
    (h : read b.1 b.2 = .ok (k, a)) : ∃ x, (ofBindings bs).bindings.get? k = some x := by
  obtain ⟨es⟩ := bs
  induction es using List.reverseRecOn with
  | nil => cases hb
  | append_singleton es c ih =>
    rw [get?_ofBindings_append]
    rcases List.mem_append.1 hb with hb | hb
    · obtain ⟨x, hx⟩ := ih hb
      split
      · split
        · exact ⟨_, rfl⟩
        · exact ⟨x, hx⟩
      · exact ⟨x, hx⟩
    · rw [List.mem_singleton.1 hb] at h
      exact ⟨a, by simp [h]⟩

/-- Two of the bindings are for the key and cause different actions. -/
def Clash (bs : Store String String) (k : Key) : Prop :=
  ∃ b ∈ bs.entries, ∃ c ∈ bs.entries, ∃ x y,
    read b.1 b.2 = .ok (k, x) ∧ read c.1 c.2 = .ok (k, y) ∧ x ≠ y

/-- Where no bindings clash, a key causes what any of its bindings says. -/
theorem get?_ofBindings_eq_some_iff (h : ¬Clash bs k) :
    (ofBindings bs).bindings.get? k = some a ↔ ∃ b ∈ bs.entries, read b.1 b.2 = .ok (k, a) := by
  refine ⟨exists_of_get?_ofBindings, fun ⟨b, hb, hread⟩ => ?_⟩
  obtain ⟨x, hx⟩ := get?_ofBindings_of_mem hb hread
  obtain ⟨c, hc, hreadc⟩ := exists_of_get?_ofBindings hx
  by_contra hne
  refine h ⟨b, hb, c, hc, a, x, hread, hreadc, ?_⟩
  rintro rfl
  exact hne hx

theorem Clash.of_perm (h : Clash cs k) (hperm : cs.entries.Perm bs.entries) : Clash bs k := by
  obtain ⟨b, hb, c, hc, hread⟩ := h
  exact ⟨b, hperm.mem_iff.1 hb, c, hperm.mem_iff.1 hc, hread⟩

theorem get?_ofBindings_of_perm (h : ¬Clash bs k) (hperm : cs.entries.Perm bs.entries) :
    (ofBindings cs).bindings.get? k = (ofBindings bs).bindings.get? k := by
  refine Option.ext fun a => ?_
  rw [get?_ofBindings_eq_some_iff h, get?_ofBindings_eq_some_iff fun hc => h (hc.of_perm hperm)]
  simp only [hperm.mem_iff]

/-- Any of the bindings can stand last. -/
theorem exists_perm_last {b : String × String} (hb : b ∈ bs.entries)
    (h : read b.1 b.2 = .ok (k, a)) : ∃ cs : Store String String, cs.entries.Perm bs.entries ∧
      (ofBindings cs).bindings.get? k = some a := by
  refine ⟨⟨bs.entries.erase b ++ [b]⟩, ?_, get?_ofBindings_last h _⟩
  exact (List.perm_append_singleton ..).trans (List.perm_cons_erase hb).symm

theorem gesture_of_get? {m : Keymap} {p : KeyPress} (h : m.bindings.get? p.key.folded = some a) :
    m.gesture p = .act a := by
  rw [gesture, h]

theorem gesture_congr {m n : Keymap} {p : KeyPress}
    (h : m.bindings.get? p.key.folded = n.bindings.get? p.key.folded) :
    m.gesture p = n.gesture p := by
  rw [gesture, h, gesture]

/-- The order of bindings does not matter to what is told about those that are not used, and it
matters to a key press just if bindings for its key clash. -/
theorem ofBindings_order (bs : Store String String) :
    (∀ cs : Store String String, cs.entries.Perm bs.entries → rejected cs = rejected bs) ∧
    ∀ p : KeyPress, (∀ cs : Store String String, cs.entries.Perm bs.entries →
      (ofBindings cs).gesture p = (ofBindings bs).gesture p) ↔ ¬Clash bs p.key.folded := by
  refine ⟨fun _ => rejected_eq_of_perm, fun p => ⟨fun hsame => ?_, fun h cs hperm => ?_⟩⟩
  · rintro ⟨b, hb, c, hc, x, y, hreadb, hreadc, hne⟩
    obtain ⟨bLast, hpermb, hx⟩ := exists_perm_last hb hreadb
    obtain ⟨cLast, hpermc, hy⟩ := exists_perm_last hc hreadc
    have hact : Gesture.act x = .act y := by
      rw [← gesture_of_get? hx, hsame bLast hpermb, ← hsame cLast hpermc, gesture_of_get? hy]
    exact hne (Gesture.act.inj hact)
  · exact gesture_congr (get?_ofBindings_of_perm h hperm)

/-- Two names of one key for the same action. -/
def cancelTwice : Store String String :=
  ⟨[("^G", "cancel"), ("C-g", "cancel")]⟩

theorem ofBindings_order_cancelTwice :
    cancelTwice.entries.reverse.Perm cancelTwice.entries ∧
    (∀ k, ¬Clash cancelTwice k) ∧
    rejected ⟨cancelTwice.entries.reverse⟩ = rejected cancelTwice ∧
    ∀ p, (ofBindings ⟨cancelTwice.entries.reverse⟩).gesture p =
      (ofBindings cancelTwice).gesture p := by
  have hperm : cancelTwice.entries.reverse.Perm cancelTwice.entries := List.reverse_perm _
  have hcancel : ∀ b ∈ cancelTwice.entries, b.2 = "cancel" := by decide
  have hclash : ∀ k, ¬Clash cancelTwice k := by
    rintro k ⟨b, hb, c, hc, x, y, hx, hy, hne⟩
    have hx := (read_eq_ok_iff.1 hx).2
    have hy := (read_eq_ok_iff.1 hy).2
    rw [hcancel b hb, ← hcancel c hc, hy] at hx
    exact hne (Option.some.inj hx).symm
  obtain ⟨hrejected, hgesture⟩ := ofBindings_order cancelTwice
  exact ⟨hperm, hclash, hrejected _ hperm, fun p => (hgesture p).2 (hclash _) _ hperm⟩

/-- Two names of one key for different actions. -/
def cancelOrQuit : Store String String :=
  ⟨[("^G", "cancel"), ("C-g", "quit")]⟩

/-- The order of two bindings for one key decides what the key does. -/
theorem not_gesture_of_perm : ¬∀ bs cs : Store String String, bs.Distinct →
    cs.entries.Perm bs.entries → ∀ p, (ofBindings cs).gesture p = (ofBindings bs).gesture p := by
  intro h
  have hdistinct : cancelOrQuit.Distinct := by
    rw [Store.Distinct]
    decide
  have hsame := h cancelOrQuit ⟨cancelOrQuit.entries.reverse⟩ hdistinct (List.reverse_perm _)
    (.ofKey (.ctrl 'g'))
  revert hsame
  decide +kernel

end GraphDraft.Keymap
