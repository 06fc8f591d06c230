import GraphDraft.Variable

/-!
# Blueprints

What the catalog offers: the kind of a node, its ports, and for a composite the plan of its body.
A blueprint becomes a node once a document gives it an identity and a position.
-/

namespace GraphDraft

/-- Direction and kind of a port. -/
inductive PortKind where
  | controlInput
  | controlOutput
  | valueInput
  | valueOutput
deriving DecidableEq, Repr

def PortKind.text : PortKind → String
  | controlInput => "control input"
  | controlOutput => "control output"
  | valueInput => "value input"
  | valueOutput => "value output"

/-- How a node uses a member of a host type. -/
inductive MemberUse where
  | construct
  | invoke
  | get
  | set
deriving DecidableEq, Repr

def MemberUse.text : MemberUse → String
  | construct => "Construct"
  | invoke => "Invoke"
  | get => "Get"
  | set => "Set"

/-- What a node is. -/
inductive NodeKind where
  /-- A built-in node type, by its dotted path. -/
  | unit (path : String)
  | member (owner name : String) (how : MemberUse)
  | literal (type : DataType)
  /-- A composite, possibly an instance of a named asset. -/
  | subgraph (asset : Option String)
  | getVariable (scope : Scope)
  | setVariable (scope : Scope)
  /-- Stands in for an entry that cannot be built. -/
  | null
deriving DecidableEq, Repr

namespace NodeKind

def isComposite : NodeKind → Bool
  | subgraph _ => true
  | _ => false

def text : NodeKind → String
  | unit path => "unit " ++ path
  | member owner name how => how.text ++ " " ++ owner ++ "." ++ name
  | literal type => "literal " ++ type.text
  | subgraph (some name) => "subgraph #" ++ name
  | subgraph none => "subgraph"
  | getVariable scope => "get " ++ scope.text ++ " variable"
  | setVariable scope => "set " ++ scope.text ++ " variable"
  | null => "null"

end NodeKind

structure ValueInput where
  key : String
  type : DataType
  /-- The value used while nothing is connected; some inputs cannot hold one. -/
  default : Option Value := none
deriving DecidableEq, Repr

structure ValueOutput where
  key : String
  type : DataType
deriving DecidableEq, Repr

/-- The ports of a node, in drawing order. -/
structure Ports where
  controlInputs : List String := []
  controlOutputs : List String := []
  valueInputs : List ValueInput := []
  valueOutputs : List ValueOutput := []
deriving DecidableEq, Repr, Inhabited

namespace Ports

def valueInput? (p : Ports) (key : String) : Option ValueInput :=
  p.valueInputs.find? (·.key = key)

def valueOutput? (p : Ports) (key : String) : Option ValueOutput :=
  p.valueOutputs.find? (·.key = key)

/-- All input keys, control first. -/
def inputKeys (p : Ports) : List String :=
  p.controlInputs ++ p.valueInputs.map (·.key)

/-- All output keys, control first. -/
def outputKeys (p : Ports) : List String :=
  p.controlOutputs ++ p.valueOutputs.map (·.key)

end Ports

/-- A port that a body shows on its composite. -/
structure PortPlan where
  kind : PortKind
  key : String
  label : String
  type : DataType := .object
deriving DecidableEq, Repr

/-- The body of a composite before it has an identity. -/
structure BodyPlan where
  title : String
  ports : List PortPlan := []
deriving DecidableEq, Repr

structure Blueprint where
  kind : NodeKind
  title : String
  ports : Ports := {}
  /-- With a body, the ports are derived from it. -/
  body : Option BodyPlan := none
deriving DecidableEq, Repr

namespace Blueprint

/-- What an entry that cannot be built gives. -/
def null : Blueprint where
  kind := .null
  title := "Null"

/-- A composite is titled like its body. -/
def composite (asset : Option String) (body : BodyPlan) : Blueprint where
  kind := .subgraph asset
  title := body.title
  body := some body

end Blueprint

end GraphDraft
