import GraphDraft.Blueprint
import GraphDraft.Text.Lowercase
import GraphDraft.Text.Piece

/-!
# The catalog

Everything that can be created by name. Entries stand in order of the length of their names, those
of equal length in the order in which they were given, so that the shortest name that contains a
query comes first.
-/

namespace GraphDraft

/-- Why an entry cannot be built. -/
inductive BuildError where
  | unconstructible (name : String)
  | failed (name reason : String)
deriving DecidableEq, Repr

def BuildError.message : BuildError → String
  | unconstructible name => name ++ " cannot be constructed"
  | failed name reason => name ++ " failed to construct: " ++ reason

/-- A name, and what building it gives. -/
structure Entry where
  name : String
  build : Except BuildError Blueprint

namespace Entry

/-- An entry under the lowercase form of a name. -/
def named (name : String) (build : Except BuildError Blueprint) : Entry :=
  ⟨Text.lowercase name, build⟩

/-- The blueprint of an entry; a neutral one if it cannot be built. -/
def blueprint (e : Entry) : Blueprint :=
  match e.build with
  | .ok b => b
  | .error _ => .null

/-- The order of the catalog: by the length of the name. -/
def notLonger (a b : Entry) : Bool :=
  a.name.length ≤ b.name.length

/-- Whether the name of an entry contains a text. -/
def matchesText (e : Entry) (needle : String) : Bool :=
  Text.isPieceOf needle.toList e.name.toList

end Entry

structure Catalog where
  entries : List Entry := []

namespace Catalog

/-- The catalog of some entries. -/
def ofList (es : List Entry) : Catalog :=
  ⟨es.mergeSort Entry.notLonger⟩

def size (c : Catalog) : Nat :=
  c.entries.length

/-- The first `limit` entries whose name contains a query, whatever the case of the query. -/
def search (c : Catalog) (query : String) (limit : Nat) : List Entry :=
  (c.entries.filter (·.matchesText (Text.lowercase query))).take limit

/-- Whether some entry matches a query. -/
def finds (c : Catalog) (query : String) : Bool :=
  !(c.search query 1).isEmpty

/-- The names of some entries in one line. -/
def listing (es : List Entry) : String :=
  ", ".intercalate (es.map (·.name))

/-- A hint of more characters than this is cut. -/
def longestHint : Nat := 100

/-- The names of some entries, cut to fit the hint line. -/
def hint (es : List Entry) : String :=
  let line := listing es
  if longestHint < line.length then String.ofList (line.toList.take longestHint) ++ "..." else line

end Catalog

end GraphDraft
