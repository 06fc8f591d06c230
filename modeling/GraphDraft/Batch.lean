import GraphDraft.LineDiff
import GraphDraft.Outline
import GraphDraft.Session

/-!
# Batches

Lines that are typed one after the other, each kept or each taken back, with a report on each and
the outline of the document at the end.
-/

namespace GraphDraft.Batch

/-- Types characters one by one after those typed already. -/
def type (typed : List Char) :
    List Char → Session × Document → Except SessionError (Session × Document)
  | [], x => .ok x
  | c :: cs, (s, d) => do
    let typed := typed ++ [c]
    type typed cs (← s.keystroke (String.ofList typed) d)

/-- The rows about a line: the hint, the output, and the changed lines since before it. -/
def report (line before : String) (s : Session) (d : Document) : List String :=
  ("> " ++ line) :: s.feedback.hint.toList.map ("  ? " ++ ·) ++
    s.feedback.output.map ("  | " ++ ·) ++
    (diffLines before d.outline).map fun c => "  " ++ c.text

/-- Types a line and keeps it, or takes it back if `cancel`. -/
def runLine (cancel : Bool) (line : String) (x : Session × Document) :
    Except SessionError (List String × Session × Document) := do
  let before := x.2.outline
  let s ← x.1.activate x.2
  let (s, d) ← type [] line.toList (s, x.2)
  let rows := report line before s d
  if cancel then
    let (count, s, d) ← s.cancel d
    return (rows ++ ["  cancelled, " ++ toString count ++ " changes reverted"], s, d)
  else
    let (count, s) ← s.confirm
    return (rows ++ ["  confirmed, " ++ toString count ++ " changes kept"], s, d)

/-- Runs lines in order. -/
def runLines (cancel : Bool) :
    List String → Session × Document → Except SessionError (List String × Session × Document)
  | [], x => .ok ([], x)
  | line :: lines, x => do
    let (rows, x) ← runLine cancel line x
    let (more, x) ← runLines cancel lines x
    return (rows ++ more, x)

/-- Runs a batch. Gives what is printed, and what it has come to. -/
def run (cancel : Bool) (lines : List String) (x : Session × Document) :
    Except SessionError (String × Session × Document) := do
  let (rows, s, d) ← runLines cancel lines x
  return (Text.unlines (rows ++ [""]) ++ d.outline, s, d)

/-- The lines that a batch takes from its input: those that are not blank and no comments. -/
def inputLines (text : String) : List String :=
  (Text.lines text).filter fun l => !(Text.trim l.toList).isEmpty && l.toList.head? ≠ some '#'

end GraphDraft.Batch
