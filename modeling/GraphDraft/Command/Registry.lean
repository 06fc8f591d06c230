import GraphDraft.Command.Intent
import GraphDraft.Command.Token
import GraphDraft.Decimal.Reading
import GraphDraft.Store

/-!
# Verbs

The verbs of the prompt and the commands they stand for. A token calls the longest verb that it
begins with; a token that begins with none is left whole to the fallback verb.
-/

namespace GraphDraft

/-- Splits a text at each occurrence of a separator. -/
def splitArguments (separator : Char) : List Char → List (List Char)
  | [] => [[]]
  | c :: cs =>
    if c = separator then [] :: splitArguments separator cs
    else match splitArguments separator cs with
      | [] => [[c]]
      | a :: as => (c :: a) :: as

/-- What separates the arguments of a token. -/
def argumentSeparator : Char := ','

/-- The arguments in a text; there is always at least one. -/
def argumentsOf (text : String) : List String :=
  (splitArguments argumentSeparator text.toList).map String.ofList

namespace Command

/-- The first argument. -/
def first (arguments : List String) : String :=
  arguments.headD ""

/-- How often to go up: a whole number of 64 bits, one if the text is none, and none at all if it
is negative. -/
def count (text : String) : Nat :=
  match Decimal.integer? (Text.trim text.toList) with
  | some n => if -0x8000000000000000 ≤ n ∧ n ≤ 0x7FFFFFFFFFFFFFFF then n.toNat else 1
  | none => 1

/-- What a command with arguments is to do. -/
def intent (c : Command) (arguments : List String) (left isLast : Bool) : Intent :=
  match c with
  | bare => .bare arguments left isLast
  | createUnit => .createUnit (first arguments) left isLast
  | goUp => .goUp (count (first arguments))
  | createSubgraph entry exit => .createSubgraph (first arguments) entry exit left
  | definePort kind => .addPort kind (first arguments)
  | assignDefaults => .assignDefaults arguments
  | linkVariable scope access => .linkVariable scope access (arguments.head?.filter (· ≠ ""))
  | showAll => .showAll (first arguments)

end Command

/-- Verbs with their commands. -/
structure Registry where
  verbs : Store String Command := {}
  /-- The verb of tokens that begin with no other one. -/
  fallback : String

namespace Registry

/-- Makes a verb stand for a command. -/
def register (r : Registry) (verb : String) (c : Command) : Registry :=
  { r with verbs := r.verbs.put verb c }

/-- Makes a verb stand for the command of another one, if there is such a verb. -/
def alias? (r : Registry) (verb target : String) : Option Registry :=
  (r.verbs.get? target).map (r.register verb)

/-- The rest of a text that begins with a verb. -/
def rest? (verb text : String) : Option String :=
  (verb.toList.isPrefixOf? text.toList).map String.ofList

/-- A verb that a token begins with. -/
structure Found where
  verb : String
  command : Command
  /-- The token without the verb. -/
  rest : String
deriving DecidableEq, Repr

/-- The longer of two verbs, the second one if they are equally long. -/
def longer (best : Option Found) (f : Found) : Option Found :=
  match best with
  | some b => if f.verb.length < b.verb.length then some b else some f
  | none => some f

/-- The verb that a token calls. -/
def lookup (r : Registry) (text : String) : Option Found :=
  let found := r.verbs.entries.filterMap fun (verb, c) =>
    if verb = r.fallback then none else (rest? verb text).map (⟨verb, c, ·⟩)
  match found.foldl longer none with
  | some f => some f
  | none => (r.verbs.get? r.fallback).map (⟨r.fallback, ·, text⟩)

/-- What a token is to do. -/
def intent? (r : Registry) (t : Token) : Option Intent :=
  (r.lookup t.text).map fun f => f.command.intent (argumentsOf f.rest) t.attachLeft t.isLast

/-- What the tokens of a line are to do, in order. -/
def intents (r : Registry) (line : String) : List Intent :=
  (Token.ofLine line).filterMap r.intent?

/-- The verb of bare tokens. -/
def bareVerb : String := "empty:"

/-- The verbs that read and write the variables of a scope. -/
def variableVerbs (scope : Scope) : List (String × Command) :=
  [("var" ++ scope.text ++ ":", .linkVariable scope .get),
   ("setvar" ++ scope.text ++ ":", .linkVariable scope .set)]

/-- The verbs of the prompt. -/
def standard : Registry where
  fallback := bareVerb
  verbs := ⟨
    [(bareVerb, .bare), ("unit:", .createUnit), ("up:", .goUp),
     ("subgraph:", .createSubgraph true true), ("subgraphin:", .createSubgraph true false),
     ("subgraphout:", .createSubgraph false true),
     ("subgraphnoports:", .createSubgraph false false),
     ("valueinput:", .definePort .valueInput), ("valueoutput:", .definePort .valueOutput),
     ("controlinput:", .definePort .controlInput), ("controloutput:", .definePort .controlOutput),
     ("defaultvalue:", .assignDefaults)] ++
    Scope.all.flatMap variableVerbs ++ [("showall:", .showAll)]⟩

end Registry

end GraphDraft
