/-!
# Lines

A text as a sequence of lines. A line ends with a line feed, which may have a carriage return
before it; the end of a text also ends a line that has begun.
-/

namespace GraphDraft.Text

/-- A line without the carriage return at its end. -/
def dropReturn (line : List Char) : List Char :=
  if line.getLast? = some '\r' then line.dropLast else line

/-- The line begun at the start of a text, if the text has another character, and the lines after
it. A line that no line feed ends keeps its carriage return. -/
def linesFrom : List Char → List Char × Bool × List (List Char)
  | [] => ([], false, [])
  | c :: cs =>
    let (line, ended, later) := linesFrom cs
    if c = '\n' then
      let next := if ended then dropReturn line :: later
        else if line.isEmpty then later else line :: later
      ([], true, next)
    else (c :: line, ended, later)

/-- The lines of a text. -/
def lines (s : String) : List String :=
  let (line, ended, later) := linesFrom s.toList
  let all := if ended then dropReturn line :: later
    else if line.isEmpty then later else line :: later
  all.map String.ofList

/-- A text that holds some lines, each ended. -/
def unlines (ls : List String) : String :=
  String.join (ls.map (· ++ "\n"))

end GraphDraft.Text
