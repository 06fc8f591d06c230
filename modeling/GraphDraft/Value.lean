import GraphDraft.Decimal.Reading
import GraphDraft.Decimal.Shortest
import GraphDraft.Text.Quoted

/-!
# Data types and values

What value ports carry, and the values typed into the prompt. A typed text is read in a fixed order
(`Value.ofText`): as a finite number, as a whole number, as a truth value, and else as itself.
-/

namespace GraphDraft

/-- The type of what a value port carries. -/
inductive DataType where
  | object
  | float
  | int
  | bool
  | string
  /-- A type of the host, known by name only. -/
  | named (name : String)
  | list (element : DataType)
deriving DecidableEq, Repr, Inhabited

namespace DataType

/-- A port of type `object` receives anything, any other its own type only. -/
def accepts (t given : DataType) : Bool :=
  t = object || t = given

def text : DataType → String
  | object => "object"
  | float => "float"
  | int => "int"
  | bool => "bool"
  | string => "string"
  | named name => name
  | list element => "list<" ++ element.text ++ ">"

theorem accepts_iff {t given : DataType} : t.accepts given = true ↔ t = object ∨ t = given := by
  simp [accepts]

end DataType

/-- A value stored in an input or a variable. -/
inductive Value where
  | float (x : Float32)
  | int (n : Int32)
  | bool (b : Bool)
  | string (s : String)
  | null
deriving DecidableEq, Repr, Inhabited

namespace Value

/-- The type of a value. -/
def type : Value → DataType
  | float _ => .float
  | int _ => .int
  | bool _ => .bool
  | string _ => .string
  | null => .object

/-- The value of a variable just declared, and of an input nobody has filled. -/
def zero : DataType → Value
  | .float => float 0
  | .int => int 0
  | .bool => bool false
  | .string => string ""
  | .object | .named _ | .list _ => null

def isString : Value → Bool
  | string _ => true
  | _ => false

/-- Empty texts are never written into an input. -/
def isEmptyString : Value → Bool
  | string s => s.isEmpty
  | _ => false

def text : Value → String
  | float x => float32Text x
  | int n => toString n.toInt
  | bool b => if b then "true" else "false"
  | string s => Text.quoted s
  | null => "null"

/-- The finite number that a text denotes. Infinities and not-a-number are none, whether the text
names them or rounds to them. -/
def finiteNumber? (s : String) : Option Float32 :=
  (float32? s).filter Float32.isFinite

/-- The whole number of 32 bits that a text denotes. -/
def wholeNumber? (cs : List Char) : Option Int32 :=
  (Decimal.integer? cs).bind fun n =>
    if -0x80000000 ≤ n ∧ n ≤ 0x7FFFFFFF then some (.ofInt n) else none

/-- The truth value that a text names, whatever its case. -/
def truthValue? (cs : List Char) : Option Bool :=
  let name := String.ofList (cs.map Char.toLower)
  if name = "true" then some true else if name = "false" then some false else none

/-- Reads a typed text. -/
def ofText (s : String) : Value :=
  match finiteNumber? s with
  | some x => float x
  | none => match wholeNumber? s.toList with
    | some n => int n
    | none => match truthValue? s.toList with
      | some b => bool b
      | none => string s

end Value

end GraphDraft
