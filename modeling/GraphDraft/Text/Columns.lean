import GraphDraft.Text.Cluster
import GraphDraft.Text.Quoted
import GraphDraft.Text.Table.Columns

/-!
# Columns

Display width in a terminal, summed character by character, and clipping at a cluster boundary.
-/

namespace GraphDraft.Text

/-- Columns of one character: none for controls and for marks that join the character before,
two for wide characters, three for one Khmer sign that stands for a whole word. The two halfwidth
sound marks continue a cluster and still take a column. -/
def charColumns (c : Char) : Nat :=
  let n := c.toNat
  if n < 0x20 then 0
  else if n < 0x7F then 1
  else if n < 0xA0 then 0
  else if n = 0x17D8 then 3
  else if n = 0x17A4 then 2
  else if n = 0x2D7F || n = 0xFF9E || n = 0xFF9F then 1
  else if isJoiningMark c || Table.invisible.has c then 0
  else if Table.wide.has c then 2
  else 1

/-- Columns of a text. -/
def columns : List Char → Nat
  | [] => 0
  | c :: cs => charColumns c + columns cs

/-- Columns of the first `n` clusters. -/
def columnsUpTo (n : Nat) (s : String) : Nat :=
  columns (splitClusters n s).1

/-- The clusters from the left that together fit into `room` columns. -/
def fitting (room : Nat) : List (List Char) → List (List Char)
  | [] => []
  | g :: gs => if columns g ≤ room then g :: fitting (room - columns g) gs else []

/-- The longest start of a text, in whole clusters, that fits into `room` columns. -/
def clip (room : Nat) (s : String) : String :=
  String.ofList (fitting room (clusters s.toList)).flatten

theorem columns_append (a b : List Char) : columns (a ++ b) = columns a + columns b := by
  induction a with
  | nil => simp [columns]
  | cons c a ih => simp [columns, ih, Nat.add_assoc]

theorem columns_fitting (room : Nat) (gs : List (List Char)) :
    columns (fitting room gs).flatten ≤ room := by
  induction gs generalizing room with
  | nil => simp [fitting, columns]
  | cons g gs ih =>
    simp only [fitting]
    split
    · rw [List.flatten_cons, columns_append]
      have := ih (room - columns g)
      omega
    · simp [columns]

/-- A clipped text fits. -/
theorem columns_clip (room : Nat) (s : String) : columns (clip room s).toList ≤ room := by
  simpa [clip] using columns_fitting room _

end GraphDraft.Text
