import GraphDraft.Store
import GraphDraft.Value

/-!
# Variables

A scope holds its declarations in the order in which they were made. Overwriting a variable keeps
its place.
-/

namespace GraphDraft

/-- Where a variable is declared. -/
inductive Scope where
  /-- In one graph. -/
  | graph
  /-- On the object that the graph runs on. -/
  | object
  | scene
  | application
  /-- Kept between runs. -/
  | saved
deriving DecidableEq, Repr

namespace Scope

def all : List Scope :=
  [graph, object, scene, application, saved]

def text : Scope → String
  | graph => "graph"
  | object => "object"
  | scene => "scene"
  | application => "app"
  | saved => "saved"

end Scope

/-- The declarations of one scope. -/
abbrev Declarations := Store String Value

end GraphDraft
