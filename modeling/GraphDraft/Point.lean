import GraphDraft.Decimal.Shortest

/-!
# Points of the canvas

Positions and offsets, in the units of the width estimates. The second coordinate grows downwards.
-/

namespace GraphDraft

structure Point where
  x : Float32
  y : Float32
deriving DecidableEq, Repr

namespace Point

def origin : Point := ⟨0, 0⟩

instance : Inhabited Point := ⟨origin⟩

instance : Add Point := ⟨fun a b => ⟨a.x + b.x, a.y + b.y⟩⟩

instance : Sub Point := ⟨fun a b => ⟨a.x - b.x, a.y - b.y⟩⟩

/-- The length of the straight line between two points. -/
def distance (a b : Point) : Float32 :=
  let d := a - b
  (d.x * d.x + d.y * d.y).sqrt

/-- Equality of coordinates as numbers: the two zeros are equal, and not-a-number equals nothing. -/
def sameAs (a b : Point) : Bool :=
  a.x == b.x && a.y == b.y

def text (p : Point) : String :=
  "(" ++ float32Text p.x ++ ", " ++ float32Text p.y ++ ")"

/-- A key that orders coordinates totally, from the negative not-a-numbers up: a negative value
counts down from the code of its magnitude. -/
def orderKey (x : Float32) : Int :=
  let bits := x.toBits.toNat
  if bits < 0x80000000 then bits else 0x7FFFFFFF - (bits : Int)

end Point

end GraphDraft
