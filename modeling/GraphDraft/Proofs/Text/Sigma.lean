import GraphDraft.Proofs.Text.Lowercase
import Mathlib.Data.List.Basic
import Mathlib.Data.List.Infix

/-!
# Lowercasing a piece of a text

The lowercase form of a text is that of its pieces, but for capital sigmas: whether one ends a word
depends on what stands around it, and a piece by itself lacks some of that. So a piece is lowercased
in the same way by itself and in the text if and only if each of its capital sigmas ends a word in
both or in neither (`lowercaseWithin_eq_iff`). Then its lowercase form is found in that of the text.
Where the rest of the text has no sigma, it is found in no other case (`infix_lowercase_iff`).
-/

namespace GraphDraft.Text

/-- A capital sigma ends a word where it follows a cased character and none follows it. The
characters before it are given with the nearest first. -/
def EndsWord (before after : List Char) : Prop :=
  nextIsCased before = true ∧ nextIsCased after = false

instance (before after : List Char) : Decidable (EndsWord before after) :=
  inferInstanceAs (Decidable (_ ∧ _))

/-- The small form of a capital sigma. -/
def sigmaForm (before after : List Char) : Char :=
  if EndsWord before after then 'ς' else 'σ'

theorem sigmaForm_eq_iff {b₁ b₂ a₁ a₂ : List Char} :
    sigmaForm b₁ a₁ = sigmaForm b₂ a₂ ↔ (EndsWord b₁ a₁ ↔ EndsWord b₂ a₂) := by
  have hne : 'ς' ≠ 'σ' := by decide
  by_cases h₁ : EndsWord b₁ a₁ <;> by_cases h₂ : EndsWord b₂ a₂ <;>
    simp [sigmaForm, h₁, h₂, hne, hne.symm]

/-- Lowercases `cs` as part of a text, where `before` stands to its left, nearest first, and `after`
to its right. -/
def lowercaseWithin (before after : List Char) : List Char → List Char
  | [] => []
  | c :: cs =>
    (if c = 'Σ' then [sigmaForm before (cs ++ after)] else lowercaseChar c) ++
      lowercaseWithin (c :: before) after cs

theorem lowercaseFrom_append (before cs after : List Char) : lowercaseFrom before (cs ++ after) =
    lowercaseWithin before after cs ++ lowercaseFrom (cs.reverse ++ before) after := by
  induction cs generalizing before with
  | nil => rfl
  | cons c cs ih =>
    have hform : (if nextIsCased before && !nextIsCased (cs ++ after) then 'ς' else 'σ') =
        sigmaForm before (cs ++ after) :=
      if_congr (by simp [EndsWord]) rfl rfl
    rw [List.cons_append, lowercaseFrom, ih, hform, lowercaseWithin, List.append_assoc,
      List.reverse_cons, List.append_assoc]
    rfl

theorem lowercaseFrom_eq (before cs : List Char) :
    lowercaseFrom before cs = lowercaseWithin before [] cs := by
  have happend := lowercaseFrom_append before cs []
  rwa [List.append_nil, lowercaseFrom, List.append_nil] at happend

/-- The lowercase form of a text is made of those that its parts have in it. -/
theorem lowercaseFrom_parts (left piece right : List Char) :
    lowercaseFrom [] (left ++ piece ++ right) = lowercaseWithin [] (piece ++ right) left ++
      lowercaseWithin left.reverse right piece ++
        lowercaseWithin (piece.reverse ++ left.reverse) [] right := by
  rw [List.append_assoc, lowercaseFrom_append, lowercaseFrom_append, lowercaseFrom_eq,
    List.append_nil, List.append_assoc]

/-! ## The sigmas of a text -/

def isSmallSigma (c : Char) : Bool :=
  c = 'σ' || c = 'ς'

def isSigma (c : Char) : Bool :=
  c = 'Σ' || isSmallSigma c

theorem isSmallSigma_iff {c : Char} :
    isSmallSigma c = true ↔ c.toNat = 0x3C3 ∨ c.toNat = 0x3C2 := by
  simp only [isSmallSigma, Bool.or_eq_true, decide_eq_true_eq, ← Char.toNat_inj]
  exact Iff.rfl

theorem isSmallSigma_sigmaForm (before after : List Char) :
    isSmallSigma (sigmaForm before after) = true := by
  rw [sigmaForm]
  split <;> rfl

/-- The table gives a small sigma for the capital one only. -/
theorem sigma_target : (Table.lowercase.all fun r => r.first == 0x3A3 && r.target == 0x3C3 ||
    Nat.blt r.lastTarget 0x3C2 || Nat.blt 0x3C3 r.target) = true := by
  decide +kernel

/-- Of all characters but the capital sigma, only the small ones give small ones: themselves. -/
theorem filter_lowercaseChar {c : Char} (hc : c ≠ 'Σ') :
    (lowercaseChar c).filter isSmallSigma = [c].filter isSmallSigma := by
  by_cases hsmall : isSmallSigma c = true
  · have hlowered : Lowered c := by
      simp only [isSmallSigma, Bool.or_eq_true, decide_eq_true_eq] at hsmall
      rcases hsmall with rfl | rfl <;> decide +kernel
    rw [hlowered.lowercaseChar]
  · rw [List.filter_singleton, Bool.eq_false_iff.2 hsmall, cond_false, List.filter_eq_nil_iff]
    intro d hd hform
    rcases mem_lowercaseChar hd with ⟨rfl, -⟩ | ⟨-, rfl | rfl⟩ | ⟨r, hr, hlower⟩
    · exact hsmall hform
    · cases hform
    · cases hform
    · obtain ⟨hfirst, hlast, -, htarget⟩ := Table.CaseRun.lower?_eq_some hlower
      have hcode := isSmallSigma_iff.1 hform
      have hrun := List.all_eq_true.1 sigma_target r hr
      simp only [Table.CaseRun.lastTarget, Bool.or_eq_true, Bool.and_eq_true, beq_iff_eq,
        Nat.blt_eq] at hrun
      exact hc (Char.toNat_inj.1 (show c.toNat = 0x3A3 by omega))

theorem countP_lowercaseWithin (before after cs : List Char) :
    (lowercaseWithin before after cs).countP isSmallSigma = cs.countP isSigma := by
  induction cs generalizing before with
  | nil => rfl
  | cons c cs ih =>
    rw [lowercaseWithin, List.countP_append, ih, List.countP_cons, Nat.add_comm]
    by_cases hc : c = 'Σ'
    · simp [hc, isSigma, isSmallSigma_sigmaForm]
    · have hone := congrArg List.length (filter_lowercaseChar hc)
      rw [← List.countP_eq_length_filter, ← List.countP_eq_length_filter] at hone
      simp [hc, isSigma, hone, List.countP_cons]

/-! ## A piece and its text -/

/-- Each capital sigma of a piece ends a word in the piece if and only if it does in the text. -/
def SigmasAgree (left piece right : List Char) : Prop :=
  ∀ first rest, piece = first ++ 'Σ' :: rest →
    (EndsWord first.reverse rest ↔ EndsWord (first.reverse ++ left.reverse) (rest ++ right))

/-- The same for the rest of a piece, `before` being what has been passed of it. -/
def SigmasAgreeFrom (before left right cs : List Char) : Prop :=
  ∀ first rest, cs = first ++ 'Σ' :: rest → (EndsWord (first.reverse ++ before) rest ↔
    EndsWord (first.reverse ++ before ++ left) (rest ++ right))

variable {before left right piece cs : List Char}

theorem sigmasAgreeFrom_nil : SigmasAgreeFrom before left right [] := by
  intro first rest h
  simp at h

theorem sigmasAgreeFrom_cons {c : Char} : SigmasAgreeFrom before left right (c :: cs) ↔
    (c = 'Σ' → (EndsWord before cs ↔ EndsWord (before ++ left) (cs ++ right))) ∧
      SigmasAgreeFrom (c :: before) left right cs := by
  constructor
  · refine fun h => ⟨fun hc => h [] cs (by rw [hc, List.nil_append]), fun first rest hcs => ?_⟩
    simpa using h (c :: first) rest (by rw [hcs, List.cons_append])
  · rintro ⟨hfirst, hrest⟩ first rest hcs
    cases first with
    | nil =>
      obtain ⟨hc, rfl⟩ := List.cons.inj hcs
      exact hfirst hc
    | cons d first =>
      obtain ⟨rfl, htail⟩ := List.cons.inj hcs
      simpa using hrest first rest htail

theorem lowercaseWithin_of_agree (h : SigmasAgreeFrom before left right cs) :
    lowercaseWithin before [] cs = lowercaseWithin (before ++ left) right cs := by
  induction cs generalizing before with
  | nil => rfl
  | cons c cs ih =>
    obtain ⟨hfirst, hrest⟩ := sigmasAgreeFrom_cons.1 h
    rw [lowercaseWithin, lowercaseWithin, ih hrest, List.append_nil, List.cons_append]
    split
    · rename_i hc
      rw [sigmaForm_eq_iff.2 (hfirst hc)]
    · rfl

/-- The small sigmas of the lowercase forms tell which of the capital ones end words. -/
theorem agree_of_filter_eq (h : (lowercaseWithin before [] cs).filter isSmallSigma =
    (lowercaseWithin (before ++ left) right cs).filter isSmallSigma) :
    SigmasAgreeFrom before left right cs := by
  induction cs generalizing before with
  | nil => exact sigmasAgreeFrom_nil
  | cons c cs ih =>
    rw [lowercaseWithin, lowercaseWithin, List.filter_append, List.filter_append,
      List.append_nil] at h
    refine sigmasAgreeFrom_cons.2 ?_
    by_cases hc : c = 'Σ'
    · rw [if_pos hc, if_pos hc, List.filter_singleton, List.filter_singleton,
        isSmallSigma_sigmaForm, isSmallSigma_sigmaForm] at h
      obtain ⟨hform, hrest⟩ := List.cons.inj h
      exact ⟨fun _ => sigmaForm_eq_iff.1 hform, ih hrest⟩
    · rw [if_neg hc, if_neg hc] at h
      exact ⟨fun hsigma => absurd hsigma hc, ih (List.append_cancel_left h)⟩

theorem sigmasAgree_iff :
    SigmasAgree left piece right ↔ SigmasAgreeFrom [] left.reverse right piece := by
  simp only [SigmasAgree, SigmasAgreeFrom, List.append_nil]

/-- A piece is lowercased by itself as it is in the text if and only if its sigmas agree. -/
theorem lowercaseWithin_eq_iff : lowercaseWithin [] [] piece =
    lowercaseWithin left.reverse right piece ↔ SigmasAgree left piece right := by
  rw [sigmasAgree_iff]
  exact ⟨fun h => agree_of_filter_eq (congrArg _ h), lowercaseWithin_of_agree⟩

instance (left piece right : List Char) : Decidable (SigmasAgree left piece right) :=
  decidable_of_iff _ lowercaseWithin_eq_iff

/-- The lowercase form of a piece is found in that of the text if its sigmas agree. -/
theorem infix_of_agree (h : SigmasAgree left piece right) :
    lowercaseFrom [] piece <:+: lowercaseFrom [] (left ++ piece ++ right) := by
  rw [lowercaseFrom_parts, lowercaseFrom_eq, lowercaseWithin_eq_iff.2 h]
  exact List.infix_append ..

theorem filter_lowercaseWithin_eq_nil (h : ∀ c ∈ cs, isSigma c = false) :
    (lowercaseWithin before right cs).filter isSmallSigma = [] := by
  rw [← List.length_eq_zero_iff, ← List.countP_eq_length_filter, countP_lowercaseWithin,
    List.countP_eq_zero]
  simpa using h

/-- Where a text has no sigmas but those of the piece, these are the only ones that the lowercase
form of the piece can be found by. -/
theorem infix_lowercase_iff (h : ∀ c ∈ left ++ right, isSigma c = false) :
    lowercaseFrom [] piece <:+: lowercaseFrom [] (left ++ piece ++ right) ↔
      SigmasAgree left piece right := by
  refine ⟨fun hfound => ?_, infix_of_agree⟩
  -- of the two forms of the piece only the small sigmas are compared; there are as many in both
  have hleft : ∀ c ∈ left, isSigma c = false := fun c hc => h c (List.mem_append_left _ hc)
  have hright : ∀ c ∈ right, isSigma c = false := fun c hc => h c (List.mem_append_right _ hc)
  have hsigmas := hfound.filter isSmallSigma
  rw [lowercaseFrom_parts, lowercaseFrom_eq, List.filter_append, List.filter_append,
    filter_lowercaseWithin_eq_nil hleft, filter_lowercaseWithin_eq_nil hright, List.nil_append,
    List.append_nil] at hsigmas
  rw [sigmasAgree_iff]
  refine agree_of_filter_eq (hsigmas.eq_of_length ?_)
  rw [← List.countP_eq_length_filter, ← List.countP_eq_length_filter, countP_lowercaseWithin,
    countP_lowercaseWithin]

end GraphDraft.Text
