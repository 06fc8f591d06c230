import GraphDraft.Text.Lowercase

/-!
# Lowercase text is lowercase

No character that lowercasing gives has a lowercase form besides itself (`lowered_lowercaseFrom`),
so lowercasing a second time changes nothing (`lowercase_lowercase`). For single characters this is
a property of the table: no run of it meets the forms that it gives (`Table.settled_target`).
-/

namespace GraphDraft.Text

/-! ## The table -/

namespace Table

/-- A code point that the table gives no lowercase form. -/
def Settled (n : Nat) : Prop :=
  ∀ q ∈ lowercase, q.lower? n = none

instance (n : Nat) : Decidable (Settled n) :=
  inferInstanceAs (Decidable (∀ q ∈ lowercase, q.lower? n = none))

namespace CaseRun

/-- The last of the forms that a run gives. -/
def lastTarget (r : CaseRun) : Nat :=
  r.target + (r.last - r.first)

/-- No form that the run `r` gives is in the run `q`: either one lies beyond the other, or `q` holds
every second code point and the forms stand between those. -/
def misses (r q : CaseRun) : Bool :=
  Nat.blt r.lastTarget q.first || Nat.blt q.last r.target ||
    (r.step == 2 || r.first == r.last) && q.step == 2 && (r.target + q.first) % 2 == 1

/-- The forms that a run gives are characters, and none is the dotted capital I. -/
def givesCharacters (r : CaseRun) : Bool :=
  (Nat.blt r.lastTarget 0xD800 || Nat.blt 0xDFFF r.target && Nat.blt r.lastTarget 0x110000) &&
    (Nat.blt r.lastTarget 0x130 || Nat.blt 0x130 r.target)

variable {r q : CaseRun} {n m : Nat}

theorem lower?_eq_some (h : r.lower? n = some m) :
    r.first ≤ n ∧ n ≤ r.last ∧ (n - r.first) % r.step = 0 ∧ m = r.target + (n - r.first) := by
  rw [lower?] at h
  split at h
  · rename_i hn
    exact ⟨hn.1, hn.2.1, hn.2.2, (Option.some.inj h).symm⟩
  · cases h

theorem lower?_of_misses (h : r.misses q = true) (hm : r.lower? n = some m) :
    q.lower? m = none := by
  obtain ⟨hfirst, hlast, hstep, rfl⟩ := lower?_eq_some hm
  rw [lower?, if_neg]
  rintro ⟨hlow, hhigh, hturn⟩
  simp only [misses, lastTarget, Bool.or_eq_true, Bool.and_eq_true, Nat.blt_eq, beq_iff_eq] at h
  rcases h with (h | h) | ⟨⟨hsecond | hsingle, hq⟩, hodd⟩
  · omega
  · omega
  · rw [hsecond] at hstep
    rw [hq] at hturn
    omega
  · rw [hq] at hturn
    omega

theorem isValidChar_of_givesCharacters (h : r.givesCharacters = true) (hm : r.lower? n = some m) :
    m.isValidChar ∧ m ≠ 0x130 := by
  obtain ⟨hfirst, hlast, -, rfl⟩ := lower?_eq_some hm
  simp only [givesCharacters, lastTarget, Bool.or_eq_true, Bool.and_eq_true, Nat.blt_eq] at h
  rw [Nat.isValidChar]
  omega

end CaseRun

theorem misses_lowercase : (lowercase.all fun r => lowercase.all r.misses) = true := by
  decide +kernel

theorem givesCharacters_lowercase : lowercase.all (·.givesCharacters) = true := by
  decide +kernel

theorem ascii_lowercase :
    (lowercase.all fun q => q.first == 0x41 && q.last == 0x5A || Nat.ble 0x80 q.first) = true := by
  decide +kernel

/-- The form of a code point is a character that has no other form. -/
theorem settled_target {r : CaseRun} (hr : r ∈ lowercase) {n m : Nat} (hm : r.lower? n = some m) :
    Settled m ∧ m.isValidChar ∧ m ≠ 0x130 := by
  have hmisses := List.all_eq_true.1 misses_lowercase r hr
  refine ⟨fun q hq => r.lower?_of_misses (List.all_eq_true.1 hmisses q hq) hm, ?_⟩
  exact r.isValidChar_of_givesCharacters (List.all_eq_true.1 givesCharacters_lowercase r hr) hm

/-- Among the first code points only the capital letters of the Latin alphabet have a form. -/
theorem settled_ascii_iff {n : Nat} (hn : n < 0x80) : Settled n ↔ n < 0x41 ∨ 0x5A < n := by
  constructor
  · intro h
    have hlatin := h ⟨0x41, 0x5A, 1, 0x61⟩ List.mem_cons_self
    rw [CaseRun.lower?] at hlatin
    simp only [Nat.mod_one, and_true, ite_eq_right_iff, reduceCtorEq, imp_false] at hlatin
    omega
  · intro h q hq
    have hrun := List.all_eq_true.1 ascii_lowercase q hq
    simp only [Bool.or_eq_true, Bool.and_eq_true, beq_iff_eq, Nat.ble_eq] at hrun
    rw [CaseRun.lower?, if_neg]
    omega

end Table

/-! ## Single characters -/

/-- A character that lowercasing leaves as it is, wherever it stands. -/
structure Lowered (c : Char) : Prop where
  ne_dotted : c.toNat ≠ 0x130
  settled : Table.Settled c.toNat

instance (c : Char) : Decidable (Lowered c) :=
  decidable_of_iff (c.toNat ≠ 0x130 ∧ Table.Settled c.toNat)
    ⟨fun h => ⟨h.1, h.2⟩, fun h => ⟨h.1, h.2⟩⟩

theorem Lowered.ne_sigma {c : Char} (h : Lowered c) : c ≠ 'Σ' := by
  rintro rfl
  exact absurd h (by decide +kernel)

theorem toNat_toLower (c : Char) : c.toLower.toNat =
    if 0x41 ≤ c.toNat ∧ c.toNat ≤ 0x5A then c.toNat + 0x20 else c.toNat := by
  have hupper : (c.val ≥ 'A'.val ∧ c.val ≤ 'Z'.val) ↔ 0x41 ≤ c.toNat ∧ c.toNat ≤ 0x5A := Iff.rfl
  delta Char.toLower
  split
  · rename_i h
    rw [if_pos (hupper.1 h)]
    have hle : c.val.toNat ≤ 0x5A := h.2
    exact (UInt32.toNat_add ..).trans (Nat.mod_eq_of_lt (Nat.lt_of_le_of_lt
      (Nat.add_le_add_right hle 32) (by decide)))
  · rename_i h
    rw [if_neg (mt hupper.2 h)]

theorem Lowered.lowercaseChar {c : Char} (h : Lowered c) : lowercaseChar c = [c] := by
  have hfind : Table.lowercase.findSome? (·.lower? c.toNat) = none :=
    List.findSome?_eq_none_iff.2 h.settled
  have hdotted : c ≠ '\u0130' := by
    rintro rfl
    exact h.ne_dotted rfl
  rw [Text.lowercaseChar]
  split
  · rename_i hascii
    have hupper := (Table.settled_ascii_iff hascii).1 h.settled
    have hlower := toNat_toLower c
    rw [if_neg (by omega)] at hlower
    rw [Char.toNat_inj.1 hlower]
  · simp only [hfind]

/-- A lowercase form of a character is this character, a part of the dotted capital I, or the form
that the table gives. -/
theorem mem_lowercaseChar {c d : Char} (h : d ∈ lowercaseChar c) : d = c ∧ Lowered c ∨
    c = '\u0130' ∧ (d = 'i' ∨ d = '\u0307') ∨
    ∃ r ∈ Table.lowercase, r.lower? c.toNat = some d.toNat := by
  rw [lowercaseChar] at h
  split at h
  · rename_i hascii
    obtain rfl := List.mem_singleton.1 h
    have hlower := toNat_toLower c
    split at hlower
    · rename_i hupper
      refine .inr (.inr ⟨⟨0x41, 0x5A, 1, 0x61⟩, List.mem_cons_self, ?_⟩)
      have hform : 0x61 + (c.toNat - 0x41) = c.toNat + 0x20 := by omega
      rw [Table.CaseRun.lower?, if_pos ⟨hupper.1, hupper.2, Nat.mod_one _⟩, hlower, hform]
    · have hsame : c.toLower = c := Char.toNat_inj.1 hlower
      exact .inl ⟨hsame, by omega, (Table.settled_ascii_iff hascii).2 (by omega)⟩
  · split at h
    · rename_i hdotted
      exact .inr (.inl ⟨hdotted, by simpa using h⟩)
    · rename_i hdotted
      split at h
      · rename_i n hn
        obtain rfl := List.mem_singleton.1 h
        obtain ⟨r, hr, hlower⟩ := List.exists_of_findSome?_eq_some hn
        have hcode : (Char.ofNat n).toNat = n := by
          rw [Char.ofNat, dif_pos (Table.settled_target hr hlower).2.1]
          rfl
        exact .inr (.inr ⟨r, hr, by rw [hcode, hlower]⟩)
      · rename_i hnone
        obtain rfl := List.mem_singleton.1 h
        have hsettled : Table.Settled d.toNat := List.findSome?_eq_none_iff.1 hnone
        exact .inl ⟨rfl, fun hd => hdotted (Char.toNat_inj.1 hd), hsettled⟩

theorem lowered_lowercaseChar (c : Char) : ∀ d ∈ lowercaseChar c, Lowered d := by
  intro d hd
  rcases mem_lowercaseChar hd with ⟨rfl, hc⟩ | ⟨-, rfl | rfl⟩ | ⟨r, hr, hlower⟩
  · exact hc
  · decide +kernel
  · decide +kernel
  · obtain ⟨hsettled, -, hne⟩ := Table.settled_target hr hlower
    exact ⟨hne, hsettled⟩

/-! ## Texts -/

theorem lowercaseFrom_of_lowered {cs : List Char} (h : ∀ c ∈ cs, Lowered c) (before : List Char) :
    lowercaseFrom before cs = cs := by
  induction cs generalizing before with
  | nil => rfl
  | cons c cs ih =>
    have hc : Lowered c := h c List.mem_cons_self
    rw [lowercaseFrom, if_neg hc.ne_sigma, hc.lowercaseChar,
      ih fun d hd => h d (List.mem_cons_of_mem c hd)]
    rfl

theorem lowered_lowercaseFrom (before cs : List Char) :
    ∀ c ∈ lowercaseFrom before cs, Lowered c := by
  induction cs generalizing before with
  | nil => simp [lowercaseFrom]
  | cons c cs ih =>
    intro d hd
    rw [lowercaseFrom] at hd
    rcases List.mem_append.1 hd with hd | hd
    · split at hd
      · have hfinal : Lowered 'ς' := by decide +kernel
        have hmedial : Lowered 'σ' := by decide +kernel
        obtain rfl := List.mem_singleton.1 hd
        split
        · exact hfinal
        · exact hmedial
      · exact lowered_lowercaseChar c d hd
    · exact ih (c :: before) d hd

/-- Lowercasing twice is lowercasing once. -/
theorem lowercase_lowercase (s : String) : lowercase (lowercase s) = lowercase s := by
  rw [lowercase, lowercase, String.toList_ofList,
    lowercaseFrom_of_lowered (lowered_lowercaseFrom [] s.toList)]

end GraphDraft.Text
