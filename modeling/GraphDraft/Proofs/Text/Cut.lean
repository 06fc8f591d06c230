import GraphDraft.Text.Columns
import Mathlib.Data.String.Basic

/-!
# Cutting texts at offsets in bytes

An offset in bytes has to stand between two characters for a text to be cut there (`cut?`). So it
does exactly where the text is put together from a part of as many bytes and another one
(`cut?_eq_some_iff`). The operations on texts that take such offsets are stated by `cut?`, and each
has its lemma for a text that is put together from parts.

Clipping looks for the offset of the first cluster that does not fit. That this is an offset at
which the text can be cut is `clipBytes?_eq`.
-/

namespace GraphDraft.Text

open String (utf8Len)

/-- The two sides of an offset in bytes; none inside a character, and none past the end. -/
def cut? : (offset : Nat) → List Char → Option (List Char × List Char)
  | 0, cs => some ([], cs)
  | _ + 1, [] => none
  | n + 1, c :: cs =>
    if c.utf8Size ≤ n + 1 then
      (cut? (n + 1 - c.utf8Size) cs).map fun (left, right) => (c :: left, right)
    else none

theorem cut?_append (l r : List Char) : cut? (utf8Len l) (l ++ r) = some (l, r) := by
  induction l with
  | nil => rw [String.utf8Len_nil, cut?, List.nil_append]
  | cons c l ih =>
    have hpos := c.utf8Size_pos
    obtain ⟨n, hn⟩ : ∃ n, utf8Len (c :: l) = n + 1 :=
      Nat.exists_eq_succ_of_ne_zero (by rw [String.utf8Len_cons]; omega)
    have hrest : n + 1 - c.utf8Size = utf8Len l := by
      rw [← hn, String.utf8Len_cons, Nat.add_sub_cancel]
    have hle : c.utf8Size ≤ n + 1 := hn ▸ Nat.le_add_left ..
    rw [hn, List.cons_append, cut?, if_pos hle, hrest, ih]
    rfl

/-- A text can be cut at an offset if and only if it has a first part of as many bytes. -/
theorem cut?_eq_some_iff {n : Nat} {cs l r : List Char} :
    cut? n cs = some (l, r) ↔ l ++ r = cs ∧ utf8Len l = n := by
  constructor
  · intro h
    induction n, cs using cut?.induct generalizing l with
    | case1 cs =>
      rw [cut?] at h
      cases h
      exact ⟨rfl, rfl⟩
    | case2 n =>
      rw [cut?] at h
      cases h
    | case3 n c cs hle ih =>
      rw [cut?, if_pos hle] at h
      obtain ⟨⟨left, right⟩, hcut, heq⟩ := Option.map_eq_some_iff.1 h
      cases heq
      obtain ⟨rfl, hlen⟩ := ih hcut
      refine ⟨rfl, ?_⟩
      rw [String.utf8Len_cons, hlen, Nat.sub_add_cancel hle]
    | case4 n c cs hle =>
      rw [cut?, if_neg hle] at h
      cases h
  · rintro ⟨rfl, rfl⟩
    exact cut?_append l r

/-- The text with a character put in at an offset. -/
def insertAt? (offset : Nat) (c : Char) (cs : List Char) : Option (List Char) :=
  (cut? offset cs).map fun (left, right) => left ++ c :: right

/-- The text without what stands between two offsets. -/
def cutOut? (first last : Nat) (cs : List Char) : Option (List Char) :=
  if first ≤ last then do
    let (left, _) ← cut? first cs
    let (_, right) ← cut? last cs
    return left ++ right
  else none

/-- The text up to an offset, or all of it if it has not as many bytes. -/
def truncate? (offset : Nat) (cs : List Char) : Option (List Char) :=
  if offset ≤ utf8Len cs then (cut? offset cs).map (·.1) else some cs

theorem insertAt?_append (l r : List Char) (c : Char) :
    insertAt? (utf8Len l) c (l ++ r) = some (l ++ c :: r) := by
  rw [insertAt?, cut?_append]
  rfl

theorem cutOut?_append (l m r : List Char) :
    cutOut? (utf8Len l) (utf8Len (l ++ m)) (l ++ (m ++ r)) = some (l ++ r) := by
  have hle : utf8Len l ≤ utf8Len (l ++ m) := by
    rw [String.utf8Len_append]
    exact Nat.le_add_right ..
  rw [cutOut?, if_pos hle, cut?_append, ← List.append_assoc, cut?_append]
  rfl

theorem truncate?_append (l r : List Char) : truncate? (utf8Len l) (l ++ r) = some l := by
  have hle : utf8Len l ≤ utf8Len (l ++ r) := by
    rw [String.utf8Len_append]
    exact Nat.le_add_right ..
  rw [truncate?, if_pos hle, cut?_append]
  rfl

/-! ## Clipping -/

/-- The offset of the first cluster that does not fit, after others that take up `used` columns and
end at `offset`. -/
def overflow? (room : Nat) : (used offset : Nat) → List (List Char) → Option Nat
  | _, _, [] => none
  | used, offset, g :: gs =>
    if room < used + columns g then some offset
    else overflow? room (used + columns g) (offset + utf8Len g) gs

/-- The start of a text that fits, cut off at the offset of what does not. -/
def clipBytes? (room : Nat) (cs : List Char) : Option (List Char) :=
  match overflow? room 0 0 (clusters cs) with
  | none => some cs
  | some n => (cut? n cs).map (·.1)

theorem fitting_prefix (room : Nat) (gs : List (List Char)) : fitting room gs <+: gs := by
  induction gs generalizing room with
  | nil => exact List.prefix_rfl
  | cons g gs ih =>
    rw [fitting]
    split
    · exact List.cons_prefix_cons.2 ⟨rfl, ih _⟩
    · exact List.nil_prefix

theorem overflow?_eq {room used : Nat} (hused : used ≤ room) (offset : Nat)
    (gs : List (List Char)) : overflow? room used offset gs =
      if fitting (room - used) gs = gs then none
      else some (offset + utf8Len (fitting (room - used) gs).flatten) := by
  induction gs generalizing used offset with
  | nil => rfl
  | cons g gs ih =>
    by_cases hg : room < used + columns g
    · have hnot : ¬columns g ≤ room - used := by omega
      rw [overflow?, if_pos hg, fitting, if_neg hnot, if_neg (List.cons_ne_nil g gs).symm]
      rfl
    · have hle : columns g ≤ room - used := by omega
      rw [overflow?, if_neg hg, fitting, if_pos hle, ih (by omega), Nat.sub_sub,
        List.flatten_cons, String.utf8Len_append, Nat.add_assoc]
      simp only [List.cons.injEq, true_and]

/-- A clipped text is a first part of the text. -/
theorem clip_prefix (room : Nat) (s : String) : (clip room s).toList <+: s.toList := by
  obtain ⟨gs, hgs⟩ := fitting_prefix room (clusters s.toList)
  refine ⟨gs.flatten, ?_⟩
  rw [clip, String.toList_ofList, ← List.flatten_append, hgs, clusters_flatten]

theorem clipBytes?_eq (room : Nat) (s : String) :
    clipBytes? room s.toList = some (clip room s).toList := by
  obtain ⟨right, hright⟩ := clip_prefix room s
  have hclip : (clip room s).toList = (fitting room (clusters s.toList)).flatten :=
    String.toList_ofList
  have hcut := cut?_append (clip room s).toList right
  rw [clipBytes?, overflow?_eq (Nat.zero_le room), Nat.sub_zero, Nat.zero_add, ← hclip]
  split
  -- either all clusters fit, or the offset is the number of bytes of those that do
  · rename_i hnone
    have hfits : fitting room (clusters s.toList) = clusters s.toList := by simpa using hnone
    rw [hclip, hfits, clusters_flatten]
  · rename_i n hsome
    have hn : String.utf8Len (clip room s).toList = n := by simp_all
    rw [← hn, ← hright, hcut]
    rfl

end GraphDraft.Text
