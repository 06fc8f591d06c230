import GraphDraft.Blueprint

/-!
# Commands and intents

A verb stands for a command. Given the arguments of a token, a command says what the token is to do
(`Command.intent`); that is decided for the whole line before any of it is done.
-/

namespace GraphDraft

/-- Whether a variable is read or written. -/
inductive Access where
  | get
  | set
deriving DecidableEq, Repr

/-- What a token is to do. -/
inductive Intent where
  /-- Whatever a bare token means: a unit, values for inputs, or a subgraph. -/
  | bare (arguments : List String) (left isLast : Bool)
  | createUnit (query : String) (left isLast : Bool)
  /-- Go back to a node created earlier on the line. -/
  | goUp (count : Nat)
  | createSubgraph (title : String) (entry exit left : Bool)
  | addPort (kind : PortKind) (name : String)
  | assignDefaults (values : List String)
  /-- Without a name, the variable is named after the port. -/
  | linkVariable (scope : Scope) (access : Access) (name : Option String)
  | showAll (query : String)
deriving DecidableEq, Repr

/-- What a verb stands for. -/
inductive Command where
  | bare
  | createUnit
  | goUp
  /-- Makes a subgraph, with control ports at its entry and its exit or without. -/
  | createSubgraph (entry exit : Bool)
  | definePort (kind : PortKind)
  | assignDefaults
  | linkVariable (scope : Scope) (access : Access)
  | showAll
deriving DecidableEq, Repr

end GraphDraft
