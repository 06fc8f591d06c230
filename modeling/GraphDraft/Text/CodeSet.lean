/-!
# Sets of code points

Character classes of the Unicode standard, written as closed intervals.
-/

namespace GraphDraft.Text

/-- A set of code points: the union of closed intervals. -/
structure CodeSet where
  intervals : List (Nat × Nat)

/-- Whether the set holds a character. -/
def CodeSet.has (s : CodeSet) (c : Char) : Bool :=
  s.intervals.any fun i => i.1 ≤ c.toNat && c.toNat ≤ i.2

end GraphDraft.Text
