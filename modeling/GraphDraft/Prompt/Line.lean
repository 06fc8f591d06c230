import GraphDraft.Prompt.Key
import GraphDraft.Text.Cluster

/-!
# The prompt line

The text being typed, and a cursor that stands between two of its grapheme clusters.
-/

namespace GraphDraft

structure PromptLine where
  text : String := ""
  /-- The number of clusters to the left of the cursor. -/
  cursor : Nat := 0
deriving DecidableEq, Repr, Inhabited

namespace PromptLine

/-- The text on the two sides of the cursor. -/
def sides (l : PromptLine) : List Char × List Char :=
  Text.splitClusters l.cursor l.text

/-- Types a character. The cursor moves only if the line has a cluster more than before, so a mark
that joins the character before it leaves the cursor where it is. -/
def insert (l : PromptLine) (c : Char) : PromptLine :=
  let text := String.ofList (l.sides.1 ++ c :: l.sides.2)
  { text
    cursor := if Text.clusterCount l.text < Text.clusterCount text then l.cursor + 1 else l.cursor }

/-- The text without cluster `n`. -/
def withoutCluster (n : Nat) (s : String) : String :=
  String.ofList ((Text.splitClusters n s).1 ++ (Text.splitClusters (n + 1) s).2)

/-- Whether a key changes the text. -/
def changedBy (l : PromptLine) (k : Key) : Bool :=
  match k with
  | .backspace => 0 < l.cursor
  | .delete => l.cursor < Text.clusterCount l.text
  | _ => false

/-- Edits the line. -/
def edit (l : PromptLine) (k : Key) : PromptLine :=
  match k with
  | .backspace =>
    if l.changedBy k then ⟨withoutCluster (l.cursor - 1) l.text, l.cursor - 1⟩ else l
  | .delete => if l.changedBy k then { l with text := withoutCluster l.cursor l.text } else l
  | .left => { l with cursor := l.cursor - 1 }
  | .right => { l with cursor := min (l.cursor + 1) (Text.clusterCount l.text) }
  | .home => { l with cursor := 0 }
  | .end => { l with cursor := Text.clusterCount l.text }
  | _ => l

end PromptLine

end GraphDraft
