import GraphDraft.Text.Blank

/-!
# Tokens

A prompt line is a sequence of tokens, the maximal runs of characters that are not blank. A marker
in front of a token asks for the left side of the anchor.
-/

namespace GraphDraft

structure Token where
  /-- The token without its marker. -/
  text : String
  attachLeft : Bool
  isLast : Bool
deriving DecidableEq, Repr

namespace Token

/-- The marker of tokens that attach on the left. -/
def leftMarker : Char := '!'

/-- The token that a run of characters spells. -/
def ofRun (run : List Char) (isLast : Bool) : Token :=
  match run with
  | [] => ⟨"", false, isLast⟩
  | c :: cs =>
    if c = leftMarker then ⟨String.ofList cs, true, isLast⟩
    else ⟨String.ofList (c :: cs), false, isLast⟩

/-- The run of characters that spells a token. -/
def run (t : Token) : List Char :=
  if t.attachLeft then leftMarker :: t.text.toList else t.text.toList

/-- The tokens that some runs spell, of which the last is marked as such. -/
def ofRuns : List (List Char) → List Token
  | [] => []
  | r :: rs => ofRun r rs.isEmpty :: ofRuns rs

/-- The tokens of a line. -/
def ofLine (line : String) : List Token :=
  ofRuns (Text.runs line.toList)

end Token

end GraphDraft
