import GraphDraft.LineDiff
import GraphDraft.Text.Columns
import GraphDraft.Text.Lines

/-!
# The screen

The rows of a terminal: from the top the outline of the document, and from the bottom the prompt
line, the hint, the latest output and a preview of what the line would change. The bottom rows take
the room they need, and the outline has the rest.
-/

namespace GraphDraft

/-- What a screen is to show. -/
structure ScreenContent where
  document : String
  changes : List DiffLine := []
  output : List String := []
  hint : Option String := none
  line : String := ""
  /-- The number of clusters to the left of the cursor. -/
  cursor : Nat := 0

/-- The rows of a screen, and where its cursor stands. -/
structure Frame where
  lines : List String
  /-- The numbers of the rows that are shown dim. -/
  dimRows : List Nat
  column : Nat
  row : Nat
deriving DecidableEq, Repr

/-- A row of text. -/
structure Row where
  text : String
  dim : Bool := false
deriving DecidableEq, Repr

namespace Screen

/-- What stands in front of the line. -/
def promptMark : String := "> "

/-- The row above the preview. -/
def previewRule : String := "-- preview --"

/-- How many rows of output are shown at most. -/
def outputRows : Nat := 3

/-- A screen with more rows than this has room for a preview. -/
def crampedRows : Nat := 4

/-- The rows of the preview: some changes, and how many more there are. -/
def previewRows (changes : List DiffLine) (rows : Nat) : List Row :=
  if changes.isEmpty || rows ≤ crampedRows then []
  else
    let room := max (rows / 3) 1
    let more := changes.length - room
    ⟨previewRule, true⟩ :: (changes.take room).map (fun c => ⟨c.text, false⟩) ++
      if 0 < more then [⟨"  ... " ++ toString more ++ " more", true⟩] else []

/-- The rows below the outline, as if there were room for all. -/
def bottomRows (s : ScreenContent) (rows : Nat) : List Row :=
  previewRows s.changes rows ++
    (s.output.drop (s.output.length - outputRows)).map (fun m => ⟨m, false⟩) ++
    [⟨s.hint.getD "", true⟩, ⟨promptMark ++ s.line, false⟩]

/-- The last rows of the bottom that fit. -/
def shownBottom (s : ScreenContent) (rows : Nat) : List Row :=
  let bottom := bottomRows s rows
  bottom.drop (bottom.length - rows)

/-- The rows of the outline that have room above the bottom, filled up with empty ones. -/
def topRows (document : String) (room : Nat) : List Row :=
  let ls := (Text.lines document).take room
  (ls ++ List.replicate (room - ls.length) "").map fun l => ⟨l, false⟩

/-- All rows of a screen. -/
def allRows (s : ScreenContent) (rows : Nat) : List Row :=
  let bottom := shownBottom s rows
  topRows s.document (rows - bottom.length) ++ bottom

/-- The numbers of the dim rows, where the first row has number `first`. -/
def dimFrom (first : Nat) : List Row → List Nat
  | [] => []
  | r :: rs => if r.dim then first :: dimFrom (first + 1) rs else dimFrom (first + 1) rs

/-- The column of the cursor, which stays on the screen. -/
def cursorColumn (s : ScreenContent) (columns : Nat) : Nat :=
  min (Text.columns promptMark.toList + Text.columnsUpTo s.cursor s.line) (columns - 1)

/-- Lays out a screen. Every row is cut to the width of the screen. -/
def compose (s : ScreenContent) (columns rows : Nat) : Frame :=
  let all := allRows s rows
  { lines := all.map fun r => Text.clip columns r.text
    dimRows := dimFrom 0 all
    column := cursorColumn s columns
    row := all.length - 1 }

/-! ## Drawing -/

/-- A control sequence of the terminal. -/
def control (body : String) : String :=
  "\x1b[" ++ body

/-- Moves the cursor; the terminal counts from one. -/
def moveTo (column row : Nat) : String :=
  control (toString (row + 1) ++ ";" ++ toString (column + 1) ++ "H")

/-- Writes a row over what stands there. -/
def drawRow (dimRows : List Nat) (row : Nat) (line : String) : String :=
  moveTo 0 row ++ control "2K" ++
    if dimRows.contains row then control "2m" ++ line ++ control "0m" else line

/-- Writes a frame over the whole screen, with the cursor hidden meanwhile. -/
def draw (f : Frame) : String :=
  control "?25l" ++
    String.join (f.lines.zipIdx.map fun (line, row) => drawRow f.dimRows row line) ++
    moveTo f.column f.row ++ control "?25h"

end Screen

end GraphDraft
