/-!
# Shortest decimals

The text of a binary32 value is the decimal with the fewest digits that reads back as the value,
the nearest of those if there are several, written without an exponent. Every value owns the
interval of reals that round to it; a decimal with `k` as its last place reads back exactly if a
multiple of `10 ^ k` lies in the interval, and the candidates are the two multiples next to the
value.
-/

namespace GraphDraft.Shortest

/-- A positive value and the interval of reals that round to it, in quarters of a unit in the last
place: the value is `4 * mantissa` times `2 ^ (exponent - 2)`. -/
structure Target where
  mantissa : Nat
  exponent : Int
  /-- The value below is at half the distance of the value above. -/
  narrow : Bool

/-- A scaled bound: `quarters · 2 ^ (exponent - 2) / 10 ^ place` as a fraction. -/
def Target.scale (t : Target) (place : Int) (quarters : Nat) : Nat × Nat :=
  let e := t.exponent - 2
  (quarters * Nat.pow 2 e.toNat * Nat.pow 10 (-place).toNat,
    Nat.pow 2 (-e).toNat * Nat.pow 10 place.toNat)

/-- Whether `n · 10 ^ place` reads back as the value: the interval holds its ends if the mantissa
is even. -/
def Target.holds (t : Target) (place : Int) (n : Nat) : Bool :=
  let (low, den) := t.scale place (4 * t.mantissa - if t.narrow then 1 else 2)
  let (high, _) := t.scale place (4 * t.mantissa + 2)
  if t.mantissa % 2 = 0 then low ≤ n * den && n * den ≤ high
  else low < n * den && n * den < high

/-- The multiple of `10 ^ place` that reads back and is nearest to the value, the upper one of two
that are equally near. -/
def Target.atPlace? (t : Target) (place : Int) : Option Nat :=
  let (num, den) := t.scale place (4 * t.mantissa)
  let below := num / den
  let belowHolds := 0 < below && t.holds place below
  if t.holds place (below + 1) && !(belowHolds && 2 * (num % den) < den) then some (below + 1)
  else if belowHolds then some below
  else none

/-- The last places that are tried, from the left. -/
def places : List Int :=
  (List.range 86).map fun i : Nat => 39 - Int.ofNat i

/-- The digits of the shortest decimal, and its last place. -/
def Target.shortest (t : Target) : Nat × Int :=
  (places.findSome? fun p => (t.atPlace? p).map (·, p)).getD (0, 0)

/-- `n · 10 ^ place` without an exponent. -/
def positional (n : Nat) (place : Int) : String :=
  let digits := Nat.toDigits 10 n
  if 0 ≤ place then String.ofList (digits ++ List.replicate place.toNat '0')
  else
    let behind := (-place).toNat
    let digits := List.replicate (behind + 1 - digits.length) '0' ++ digits
    let before := digits.length - behind
    String.ofList (digits.take before ++ '.' :: digits.drop before)

end GraphDraft.Shortest

namespace GraphDraft

/-- The text of a binary32 value. -/
def float32Text (x : Float32) : String :=
  let bits := x.toBits.toNat
  let power : Nat := bits / 0x800000 % 0x100
  let fraction : Nat := bits % 0x800000
  let sign := if 0x80000000 ≤ bits then "-" else ""
  if power = 255 then if fraction = 0 then sign ++ "inf" else "NaN"
  else if power = 0 ∧ fraction = 0 then sign ++ "0"
  else
    let target : Shortest.Target :=
      if power = 0 then ⟨fraction, -149, false⟩
      else ⟨fraction + 0x800000, (power : Int) - 150, fraction = 0 && 1 < power⟩
    let (n, place) := target.shortest
    sign ++ Shortest.positional n place

end GraphDraft
