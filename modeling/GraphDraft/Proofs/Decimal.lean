import GraphDraft.Value
import Mathlib.Data.List.TakeDrop
import Mathlib.Data.List.TakeWhile

/-!
# Finite numbers

A decimal whose code stays below that of infinity is read as a finite value
(`Decimal.isFinite_toFloat32`). The reader of decimals also reads whole numbers
(`Decimal.ofChars?_of_integer?`), and the codes of those below `2 ^ 127` stay there
(`Decimal.magnitudeCode_lt`).
-/

namespace GraphDraft

open Float.Model

/-! ## Codes of finite values -/

section
variable {b : BitVec Format.binary32.numBits}

/-- Only the largest exponent stands for values that are not finite. The others stay below it. -/
theorem exists_unpack (h : UnpackedFloat.unpackExponent b ≠ -1#8) :
    (∃ s, UnpackedFloat.unpack .binary32 b = .zero s) ∨
      ∃ s m e hm, UnpackedFloat.unpack .binary32 b = .finite s m e hm ∧ e ≤ 104 := by
  have hlt : (UnpackedFloat.unpackExponent b).toNat < 255 := by
    have hne : (UnpackedFloat.unpackExponent b).toNat ≠ 255 := fun hexp =>
      h (BitVec.eq_of_toNat_eq hexp)
    have hle : (UnpackedFloat.unpackExponent b).toNat < 256 :=
      (UnpackedFloat.unpackExponent b).isLt
    omega
  have hbias : Format.binary32.exponentBias = 127 := rfl
  delta UnpackedFloat.unpack
  dsimp only
  rw [if_neg h]
  by_cases hzero : UnpackedFloat.unpackExponent b = 0#8
  · by_cases hm : UnpackedFloat.unpackMantissa b = 0#23
    · rw [if_pos hzero, dif_pos hm]
      exact .inl ⟨_, rfl⟩
    · have hpos : 0 < (UnpackedFloat.unpackMantissa b).toNat :=
        (BitVec.toNat_pos _).2 ((BitVec.pos_iff_ne_zero _).2 hm)
      have hexp : (UnpackedFloat.unpackExponent b).toNat = 0 := congrArg BitVec.toNat hzero
      rw [if_pos hzero, dif_neg hm]
      refine .inr ⟨_, _, _, hpos, rfl, ?_⟩
      omega
  · rw [if_neg hzero]
    refine .inr ⟨_, _, _, _, rfl, ?_⟩
    omega

/-- Packing moves no finite value into the codes of those that are not. -/
theorem unpackExponent_pack (h : UnpackedFloat.unpackExponent b ≠ -1#8) :
    UnpackedFloat.unpackExponent (UnpackedFloat.pack .binary32 (UnpackedFloat.unpack .binary32 b))
      ≠ -1#8 := by
  have hbias : Format.binary32.exponentBias = 127 := rfl
  obtain ⟨s, hs⟩ | ⟨s, m, e, hm, hs, he⟩ := exists_unpack h
  · rw [hs]
    delta UnpackedFloat.pack UnpackedFloat.packedZero
    dsimp only
    rw [UnpackedFloat.unpackExponent_packComponents]
    decide
  · rw [hs]
    delta UnpackedFloat.pack
    dsimp only
    rw [if_neg (by omega)]
    split
    · rw [UnpackedFloat.unpackExponent_packComponents]
      intro hexp
      have hnat := congrArg BitVec.toNat hexp
      simp at hnat
      omega
    · rw [UnpackedFloat.unpackExponent_packComponents]
      decide

theorem isFinite_unpack (h : UnpackedFloat.unpackExponent b ≠ -1#8) :
    (UnpackedFloat.unpack .binary32 b).isFinite = true := by
  obtain ⟨s, hs⟩ | ⟨s, m, e, hm, hs, -⟩ := exists_unpack h
  · rw [hs]
    rfl
  · rw [hs]
    rfl

theorem isFinite_ofBits {code : UInt32} (h : code.toNat / 0x800000 % 0x100 ≠ 0xFF) :
    (Float32.ofBits code).isFinite = true := by
  refine isFinite_unpack (unpackExponent_pack fun hexp => h ?_)
  have hnat := congrArg BitVec.toNat hexp
  simpa [UnpackedFloat.unpackExponent, Nat.shiftRight_eq_div_pow] using hnat

end

namespace Decimal

theorem isFinite_toFloat32 {d : Decimal} (h : d.magnitudeCode < infinityCode) :
    d.toFloat32.isFinite = true := by
  have hlt : d.magnitudeCode < 0x7F800000 := h
  have hcode (k : Nat) (hk : k < 0x100000000) : (UInt32.ofNat k).toNat = k :=
    UInt32.toNat_ofNat_of_lt' hk
  refine isFinite_ofBits ?_
  split <;> rw [hcode _ (by omega)] <;> omega

/-! ## Whole numbers -/

/-- A whole number is a decimal without a fraction and an exponent. -/
theorem ofChars?_of_integer? {cs : List Char} {m : Int} (h : integer? cs = some m) :
    ∃ negative, ofChars? cs = some ⟨negative, m.natAbs, 0⟩ := by
  obtain ⟨n, hn, hm⟩ : ∃ n : Int, (unsigned? (splitSign cs).2).bind (some ↑·) = some n ∧
      (if (splitSign cs).1 = true then -n else n) = m := Option.map_eq_some_iff.1 h
  obtain ⟨k, hk, hkn⟩ := Option.bind_eq_some_iff.1 hn
  obtain ⟨⟨hne, hdigits⟩, hval⟩ := Option.ite_none_right_eq_some.1 hk
  -- all that follows the sign is digits, so nothing is left for a fraction or an exponent
  have htake := List.takeWhile_eq_self_iff.2 (List.all_eq_true.1 hdigits)
  have hdrop := List.dropWhile_eq_nil_iff.2 (List.all_eq_true.1 hdigits)
  have hnat : m.natAbs = natOfDigits (splitSign cs).2 := by
    cases hkn
    cases hval
    rw [← hm]
    split <;> simp
  refine ⟨(splitSign cs).1, ?_⟩
  simp [ofChars?, htake, hdrop, splitFraction, hne, exponent?, hnat]

theorem roundHalfEven_le (n d : Nat) : roundHalfEven n d ≤ n / d + 1 := by
  rw [roundHalfEven]
  split
  · omega
  · split <;> omega

theorem floorLog2_one {n : Nat} (hn : n ≠ 0) : floorLog2 n 1 = n.log2 := by
  have hone : Nat.log2 1 = 0 := by decide
  have hle := Nat.log2_self_le hn
  simp [floorLog2, hle, hone]

/-- The significand of a whole number has 24 bits, or is the next number after it was rounded. -/
theorem nearestCode_lt {n : Nat} (h : n < Nat.pow 2 127) : nearestCode n 1 < infinityCode := by
  rw [nearestCode]
  split
  · decide
  next hn =>
    rw [floorLog2_one hn]
    have hlog : n.log2 < 127 := (Nat.log2_lt hn).2 h
    have hq : max ((n.log2 : Int) - 23) (-149) = n.log2 - 23 := by omega
    dsimp only
    rw [hq]
    -- scaled to 24 bits, by a shift to the left or to the right
    have hshift : n * 2 ^ (23 - n.log2) < 2 ^ 24 * 2 ^ (n.log2 - 23) := by
      calc n * 2 ^ (23 - n.log2) < 2 ^ (n.log2 + 1) * 2 ^ (23 - n.log2) :=
            Nat.mul_lt_mul_of_pos_right Nat.lt_log2_self (Nat.two_pow_pos _)
        _ = 2 ^ 24 * 2 ^ (n.log2 - 23) := by
            rw [← Nat.pow_add, ← Nat.pow_add]
            congr 1
            omega
    have hround := roundHalfEven_le (n * 2 ^ (23 - n.log2)) (1 * 2 ^ (n.log2 - 23))
    have hdiv : n * 2 ^ (23 - n.log2) / (1 * 2 ^ (n.log2 - 23)) < 2 ^ 24 := by
      rw [Nat.one_mul]
      exact Nat.div_lt_of_lt_mul (Nat.mul_comm (2 ^ 24) _ ▸ hshift)
    have hneg : (-((n.log2 : Int) - 23)).toNat = 23 - n.log2 := by omega
    have hpos : ((n.log2 : Int) - 23).toNat = n.log2 - 23 := by omega
    rw [hneg, hpos, infinityCode]
    simp only [Nat.pow_eq]
    omega

theorem magnitudeCode_lt {negative : Bool} {n : Nat} (h : n < Nat.pow 2 127) :
    magnitudeCode ⟨negative, n, 0⟩ < infinityCode := by
  have hlength : (Nat.toDigits 10 n).length ≤ 39 :=
    (Nat.length_toDigits_le_iff (by decide) (by decide)).2 (Nat.lt_trans h (by decide))
  have hcode := nearestCode_lt h
  simp only [magnitudeCode]
  split
  · decide
  · rw [if_neg (by omega), if_neg (by omega)]
    exact Nat.lt_of_le_of_lt (Nat.min_le_right _ _) (by simpa using hcode)

end Decimal

end GraphDraft
