import GraphDraft.Text.CodeSet

/-!
# Blanks

The characters that separate tokens on a prompt line and that trimming removes, and the maximal
runs of other characters between them.
-/

namespace GraphDraft.Text

/-- The characters with the property `White_Space`. -/
def blanks : CodeSet := ⟨
  [(0x9, 0xD), (0x20, 0x20), (0x85, 0x85), (0xA0, 0xA0), (0x1680, 0x1680), (0x2000, 0x200A),
   (0x2028, 0x2029), (0x202F, 0x202F), (0x205F, 0x205F), (0x3000, 0x3000)]⟩

def isBlank (c : Char) : Bool :=
  blanks.has c

/-- The text without the blanks at its two ends. -/
def trim (cs : List Char) : List Char :=
  ((cs.dropWhile isBlank).reverse.dropWhile isBlank).reverse

/-- The run of other characters at the start, and the runs after the first blank. -/
def runsFrom : List Char → List Char × List (List Char)
  | [] => ([], [])
  | c :: cs =>
    let (run, later) := runsFrom cs
    if isBlank c then ([], if run.isEmpty then later else run :: later) else (c :: run, later)

/-- The maximal runs of characters that are not blank, in order. -/
def runs (cs : List Char) : List (List Char) :=
  let (run, later) := runsFrom cs
  if run.isEmpty then later else run :: later

end GraphDraft.Text
