/-!
# Reading decimals

A decimal text denotes an exact number (`Decimal`), which is then rounded once, to the nearest
binary32 value with ties to even. Rounding works on the code of a magnitude: binary32 magnitudes
in increasing order have the codes 0, 1, 2, …, and the first code that is no finite magnitude
stands for infinity.
-/

namespace GraphDraft

/-- The number `± digits · 10 ^ exponent`. -/
structure Decimal where
  negative : Bool
  digits : Nat
  exponent : Int
deriving DecidableEq, Repr

namespace Decimal

/-- The value of a digit. -/
def digitValue (c : Char) : Nat :=
  c.toNat - '0'.toNat

/-- The number that a run of digits denotes. -/
def natOfDigits (cs : List Char) : Nat :=
  cs.foldl (fun n c => 10 * n + digitValue c) 0

/-- An optional sign, and the text after it. -/
def splitSign : List Char → Bool × List Char
  | '-' :: cs => (true, cs)
  | '+' :: cs => (false, cs)
  | cs => (false, cs)

/-- The value of a text that holds digits only and at least one. -/
def unsigned? (cs : List Char) : Option Nat :=
  if cs ≠ [] ∧ cs.all Char.isDigit then some (natOfDigits cs) else none

/-- A whole number with an optional sign. -/
def integer? (cs : List Char) : Option Int :=
  let (negative, cs) := splitSign cs
  (unsigned? cs).map fun n => if negative then -(n : Int) else n

/-- The exponent at the end of a number: nothing, or a mark and a whole number. -/
def exponent? : List Char → Option Int
  | [] => some 0
  | c :: cs => if c = 'e' ∨ c = 'E' then integer? cs else none

/-- The fraction after a whole part: the digits behind a point, and the text after them. -/
def splitFraction : List Char → List Char × List Char
  | '.' :: cs => cs.span Char.isDigit
  | cs => ([], cs)

/-- Reads a number: a sign, digits with at most one point among or around them, an exponent. -/
def ofChars? (cs : List Char) : Option Decimal :=
  let (negative, cs) := splitSign cs
  let (whole, cs) := cs.span Char.isDigit
  let (fraction, cs) := splitFraction cs
  if whole ++ fraction = [] then none
  else (exponent? cs).map fun e => ⟨negative, natOfDigits (whole ++ fraction), e - fraction.length⟩

/-! ## Rounding -/

/-- `n / d` to the nearest whole number, ties to even. -/
def roundHalfEven (n d : Nat) : Nat :=
  if 2 * (n % d) < d then n / d
  else if d < 2 * (n % d) then n / d + 1
  else n / d + n / d % 2

/-- The largest `k` with `2 ^ k ≤ num / den`, both positive. -/
def floorLog2 (num den : Nat) : Int :=
  let k : Int := num.log2 - den.log2
  if den * Nat.pow 2 k.toNat ≤ num * Nat.pow 2 (-k).toNat then k else k - 1

/-- The code of positive infinity. -/
def infinityCode : Nat :=
  0x7F800000

/-- The code of the magnitude nearest to `num / den`. It is `infinityCode` or more exactly if that
magnitude is not finite. -/
def nearestCode (num den : Nat) : Nat :=
  if num = 0 then 0
  else
    let q := max (floorLog2 num den - 23) (-149)
    (q + 149).toNat * 0x800000 +
      roundHalfEven (num * Nat.pow 2 (-q).toNat) (den * Nat.pow 2 q.toNat)

/-- The code of the magnitude of a decimal. Numbers of 40 and more places before the point are
infinite and those with 46 and more zeros behind it are zero, which is decided without computing
their power of ten. -/
def magnitudeCode (d : Decimal) : Nat :=
  let places : Int := (Nat.toDigits 10 d.digits).length + d.exponent
  if d.digits = 0 then 0
  else if 39 < places then infinityCode
  else if places < -45 then 0
  else min infinityCode
    (nearestCode (d.digits * Nat.pow 10 d.exponent.toNat) (Nat.pow 10 (-d.exponent).toNat))

/-- The nearest binary32 value. -/
def toFloat32 (d : Decimal) : Float32 :=
  .ofBits (.ofNat (d.magnitudeCode + if d.negative then 0x80000000 else 0))

end Decimal

/-- The values that no decimal denotes, by their names in any case. -/
def specialFloat32? (cs : List Char) : Option Float32 :=
  let (negative, cs) := Decimal.splitSign cs
  let name := String.ofList (cs.map Char.toLower)
  if name = "inf" ∨ name = "infinity" then
    some (.ofBits (if negative then 0xFF800000 else 0x7F800000))
  else if name = "nan" then some (.ofBits 0x7FC00000)
  else none

/-- Reads a binary32 value: a decimal, an infinity, or not-a-number. -/
def float32? (s : String) : Option Float32 :=
  ((Decimal.ofChars? s.toList).map Decimal.toFloat32).orElse fun _ => specialFloat32? s.toList

end GraphDraft
