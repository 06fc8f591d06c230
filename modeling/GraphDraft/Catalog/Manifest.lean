import GraphDraft.Catalog.Source

/-!
# Manifests

Descriptions of host types. Constructors, methods, properties and fields of the types that a
configuration admits become entries; names with punctuation that only compilers write are left out.
-/

namespace GraphDraft

/-- Characters of names that compilers make up. -/
def isForbidden (c : Char) : Bool :=
  c = '\x60' || c = '_' || c = '<' || c = '>'

/-- Whether a name holds such a character. -/
def isForbiddenName (name : String) : Bool :=
  name.toList.any isForbidden

inductive TypeShape where
  | classType
  | structType
  | interfaceType
  | enumType
deriving DecidableEq, Repr

structure Parameter where
  name : String
  /-- The type as it is written in names of entries. -/
  typeName : String
  type : DataType
deriving DecidableEq, Repr

inductive MemberKind where
  | constructor
  | method (returns : Option DataType)
  | property (type : DataType) (writable : Bool)
  | field (type : DataType) (readOnly : Bool)
deriving DecidableEq, Repr

structure Member where
  name : String
  kind : MemberKind
  parameters : List Parameter := []
  isStatic : Bool := false
  isGeneric : Bool := false
deriving DecidableEq, Repr

/-- The description of a host type. -/
structure Manifest where
  assembly : String
  /-- None at the top level. -/
  namespaceName : Option String
  name : String
  shape : TypeShape
  isGeneric : Bool := false
  members : List Member := []
deriving DecidableEq, Repr

namespace Member

/-- The type names of the parameters between parentheses, or nothing. -/
def signature (m : Member) : String :=
  if m.parameters.isEmpty then ""
  else "(" ++ ",".intercalate (m.parameters.map (·.typeName)) ++ ")"

/-- The inputs of the parameters, each holding the zero of its type. -/
def parameterInputs (m : Member) : List ValueInput :=
  m.parameters.map fun p => ⟨"%" ++ p.name, p.type, some (.zero p.type)⟩

/-- The input for the object that a member belongs to. -/
def targetInput (owner : String) (m : Member) : List ValueInput :=
  if m.isStatic then [] else [⟨"target", .named owner, none⟩]

/-- The ports of a node that uses a member. -/
def ports (owner : String) (m : Member) (how : MemberUse) : Ports :=
  match m.kind with
  | .constructor =>
    { controlInputs := ["enter"]
      controlOutputs := ["exit"]
      valueInputs := m.parameterInputs
      valueOutputs := [⟨"result", .named owner⟩] }
  | .method returns =>
    { controlInputs := ["enter"]
      controlOutputs := ["exit"]
      valueInputs := m.targetInput owner ++ m.parameterInputs
      valueOutputs := (returns.map (ValueOutput.mk "result")).toList }
  | .property type _ | .field type _ =>
    if how = .set then
      { controlInputs := ["assign"]
        controlOutputs := ["assigned"]
        valueInputs := m.targetInput owner ++ [⟨"input", type, some (.zero type)⟩]
        valueOutputs := [⟨"output", type⟩] }
    else
      { valueInputs := m.targetInput owner
        valueOutputs := [⟨"value", type⟩] }

/-- The node that uses a member. -/
def blueprint (owner : String) (m : Member) (how : MemberUse) : Blueprint where
  kind := .member owner m.name how
  title := (if how = .set then "Set " else "") ++ owner ++ "." ++ m.name
  ports := m.ports owner how

/-- An entry for one use of a member. -/
def entry (owner : String) (m : Member) (how : MemberUse) (name : String) : Entry :=
  .named (owner ++ "." ++ name) (.ok (m.blueprint owner how))

/-- The entries for reading and, if it can be written, writing a member. -/
def accessors (owner : String) (m : Member) (writable : Bool) : List Entry :=
  if isForbiddenName m.name then []
  else m.entry owner .get m.name ::
    if writable then [m.entry owner .set ("set" ++ m.name)] else []

/-- The entries of a member. -/
def entries (owner : String) (m : Member) : List Entry :=
  match m.kind with
  | .constructor =>
    if m.isGeneric then [] else [m.entry owner .construct (m.name ++ m.signature)]
  | .method _ =>
    if m.isGeneric || isForbiddenName m.name then []
    else [m.entry owner .invoke (m.name ++ m.signature)]
  | .property _ writable => m.accessors owner writable
  | .field _ readOnly => m.accessors owner !readOnly

end Member

namespace Manifest

/-- Whether a namespace is excluded. A type without one is excluded as soon as anything is. -/
def isExcluded (t : Manifest) (fragment : String) : Bool :=
  match t.namespaceName with
  | some name => Text.isPieceOf fragment.toList name.toList
  | none => true

/-- Whether a type is scanned under a configuration. -/
def isScanned (t : Manifest) (config : Config) : Bool :=
  config.assemblies.contains t.assembly && (t.shape = .classType || t.shape = .structType) &&
    !t.isGeneric && !isForbiddenName t.name && !config.excludedNamespaces.any t.isExcluded

/-- The entries of a type. -/
def entries (t : Manifest) : List Entry :=
  t.members.flatMap (·.entries t.name)

/-- The source of the members of some types. -/
def source (ts : List Manifest) : Source where
  stage := .discovery
  entries := fun config _ => (ts.filter (·.isScanned config)).flatMap entries

end Manifest

end GraphDraft
