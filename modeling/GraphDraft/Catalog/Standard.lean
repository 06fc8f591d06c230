import GraphDraft.Catalog.Manifest
import GraphDraft.Catalog.Shortcut

/-!
# The standard host

The node types, host types and assets that the catalog is built from unless other sources are
given.
-/

namespace GraphDraft

/-- A node type of the host, by its dotted path. -/
structure NodeType where
  path : String
  build : Except BuildError Blueprint

/-- The last segment of a dotted path. -/
def lastSegment (path : String) : String :=
  String.ofList (path.toList.reverse.takeWhile (· ≠ '.')).reverse

/-- The source of some node types. Each is named by the last segment of its path. -/
def NodeType.source (ts : List NodeType) : Source :=
  .fixed .discovery (ts.map fun t => .named (Text.lowercase (lastSegment t.path)) t.build)

namespace Standard

/-! ## Node types -/

def unit (path title : String) (ports : Ports) : NodeType :=
  ⟨path, .ok { kind := .unit path, title, ports }⟩

def input (type : DataType) (key : String) : ValueInput :=
  ⟨key, type, some (.zero type)⟩

def binary (type result : DataType) (a b key : String) : Ports where
  valueInputs := [input type a, input type b]
  valueOutputs := [⟨key, result⟩]

def unary (type result : DataType) : Ports where
  valueInputs := [input type "input"]
  valueOutputs := [⟨"output", result⟩]

def quotient (key : String) : Ports where
  valueInputs := [input .float "dividend", ⟨"divisor", .float, some (.float 1)⟩]
  valueOutputs := [⟨key, .float⟩]

/-- A node that reads a variable. -/
def getVariable (scope : Scope) (name : String) (type : DataType) : Blueprint where
  kind := .getVariable scope
  title := "Get Variable"
  ports :=
    { valueInputs := [⟨"name", .string, some (.string name)⟩]
      valueOutputs := [⟨"value", type⟩] }

/-- A node that writes a variable. -/
def setVariable (scope : Scope) (name : String) (type : DataType) : Blueprint where
  kind := .setVariable scope
  title := "Set Variable"
  ports :=
    { controlInputs := ["assign"]
      controlOutputs := ["assigned"]
      valueInputs := [⟨"name", .string, some (.string name)⟩, ⟨"input", type, none⟩]
      valueOutputs := [⟨"output", type⟩] }

def events : List NodeType :=
  [unit "Flow.Events.OnStart" "On Start" { controlOutputs := ["trigger"] },
   unit "Flow.Events.OnUpdate" "On Update" { controlOutputs := ["trigger"] },
   ⟨"Flow.Events.EventUnit", .error (.unconstructible "Flow.Events.EventUnit")⟩]

def control : List NodeType :=
  [unit "Flow.Control.If" "If"
     { controlInputs := ["enter"]
       controlOutputs := ["ifTrue", "ifFalse"]
       valueInputs := [input .bool "condition"] },
   unit "Flow.Control.Sequence" "Sequence"
     { controlInputs := ["enter"], controlOutputs := ["0", "1"] },
   unit "Flow.Control.ForLoop" "For Loop"
     { controlInputs := ["enter"]
       controlOutputs := ["body", "exit"]
       valueInputs := [input .int "firstIndex", ⟨"lastIndex", .int, some (.int 10)⟩,
         ⟨"step", .int, some (.int 1)⟩]
       valueOutputs := [⟨"currentIndex", .int⟩] },
   unit "Flow.Control.While" "While"
     { controlInputs := ["enter"]
       controlOutputs := ["body", "exit"]
       valueInputs := [input .bool "condition"] }]

def arithmetic : List NodeType :=
  [unit "Flow.Math.ScalarSum" "Add" (binary .float .float "a" "b" "sum"),
   unit "Flow.Math.ScalarSubtract" "Subtract"
     (binary .float .float "minuend" "subtrahend" "difference"),
   unit "Flow.Math.ScalarMultiply" "Multiply" (binary .float .float "a" "b" "product"),
   unit "Flow.Math.ScalarDivide" "Divide" (quotient "quotient"),
   unit "Flow.Math.ScalarModulo" "Modulo" (quotient "remainder"),
   unit "Flow.Math.ScalarMinimum" "Minimum" (binary .float .float "a" "b" "minimum"),
   unit "Flow.Math.ScalarMaximum" "Maximum" (binary .float .float "a" "b" "maximum"),
   unit "Flow.Math.ScalarAbsolute" "Absolute" (unary .float .float),
   unit "Flow.Math.ScalarRound" "Round" (unary .float .int)]

def logic : List NodeType :=
  [unit "Flow.Logic.And" "And" (binary .bool .bool "a" "b" "result"),
   unit "Flow.Logic.Or" "Or" (binary .bool .bool "a" "b" "result"),
   unit "Flow.Logic.Negate" "Negate" (unary .bool .bool),
   unit "Flow.Logic.Equal" "Equal" (binary .object .bool "a" "b" "equal"),
   unit "Flow.Logic.Greater" "Greater" (binary .float .bool "a" "b" "comparison"),
   unit "Flow.Logic.Less" "Less" (binary .float .bool "a" "b" "comparison")]

def nodeTypes : List NodeType :=
  events ++ control ++ arithmetic ++ logic ++
    [unit "Flow.Text.Concat" "Concat" (binary .string .string "a" "b" "result"),
     ⟨"Flow.Variables.GetVariable", .ok (getVariable .graph "" .object)⟩,
     ⟨"Flow.Variables.SetVariable", .ok (setVariable .graph "" .object)⟩,
     ⟨"Flow.Nesting.SubgraphUnit", .ok (.composite none { title := "Subgraph" })⟩]

/-! ## Host types -/

def vector3 : DataType := .named "Vector3"

def object (name : String) : Parameter := ⟨name, "Object", .object⟩

def single (name : String) : Parameter := ⟨name, "Single", .float⟩

def vector (name : String) : Parameter := ⟨name, "Vector3", vector3⟩

def constructor (parameters : List Parameter) : Member where
  name := "ctor"
  kind := .constructor
  parameters := parameters

def method (name : String) (parameters : List Parameter) (returns : Option DataType) : Member where
  name := name
  kind := .method returns
  parameters := parameters

def property (name : String) (type : DataType) (writable : Bool) : Member where
  name := name
  kind := .property type writable

def field (name : String) (type : DataType) (readOnly : Bool) : Member where
  name := name
  kind := .field type readOnly

/-- The member of the type instead of its objects. -/
def static (m : Member) : Member :=
  { m with isStatic := true }

def coreTypes : List Manifest :=
  let core := "Engine.Core"
  [{ assembly := core, namespaceName := "Engine", name := "Debug", shape := .classType
     members :=
       [static (method "Log" [object "message"] none),
        static (method "LogWarning" [object "message"] none)] },
   { assembly := core, namespaceName := "Engine", name := "Transform", shape := .classType
     members :=
       [property "position" vector3 true,
        property "forward" vector3 false,
        method "Translate" [vector "translation"] none,
        method "internal_Sync" [] none] },
   { assembly := core, namespaceName := "Engine", name := "Time", shape := .classType
     members :=
       [static (property "deltaTime" .float false),
        static (property "timeScale" .float true)] },
   { assembly := core, namespaceName := "Engine", name := "GameObject", shape := .classType
     members :=
       [constructor [],
        constructor [⟨"name", "String", .string⟩],
        method "SetActive" [⟨"value", "Boolean", .bool⟩] none,
        { method "GetComponent" [] (some .object) with isGeneric := true },
        property "name" .string true] },
   { assembly := core, namespaceName := "System", name := "IDisposable", shape := .interfaceType
     members := [method "Dispose" [] none] },
   { assembly := core, namespaceName := "Engine", name := "Space", shape := .enumType
     members := [static (field "World" (.named "Space") true)] },
   { assembly := core, namespaceName := "System.Collections", name := "List\x601"
     shape := .classType, isGeneric := true
     members := [method "Clear" [] none] },
   { assembly := core, namespaceName := "Engine.Internal", name := "Profiler", shape := .classType
     members := [static (method "BeginSample" [] none)] }]

def mathTypes : List Manifest :=
  let math := "Engine.Math"
  [{ assembly := math, namespaceName := "Engine", name := "Mathf", shape := .structType
     members :=
       [static (method "Clamp" [single "value", single "min", single "max"] (some .float)),
        static (method "Lerp" [single "a", single "b", single "t"] (some .float)),
        static (method "Sin" [single "f"] (some .float)),
        static (method "Abs" [single "f"] (some .float)),
        static (field "PI" .float true)] },
   { assembly := math, namespaceName := "Engine", name := "Vector3", shape := .structType
     members :=
       [constructor [single "x", single "y", single "z"],
        field "x" .float false,
        field "y" .float false,
        field "z" .float false,
        static (property "zero" vector3 false),
        property "magnitude" .float false,
        method "Normalize" [] none] }]

def physicsTypes : List Manifest :=
  [{ assembly := "Engine.Physics", namespaceName := "Engine", name := "Physics", shape := .classType
     members :=
       [static (method "Raycast" [vector "origin", vector "direction"] (some .bool))] }]

def manifests : List Manifest :=
  coreTypes ++ mathTypes ++ physicsTypes

/-! ## Assets -/

def assets : List Asset :=
  [{ name := "PlayerMovement"
     body :=
       { title := "PlayerMovement"
         ports :=
           [{ kind := .controlInput, key := "enter", label := "Enter" },
            { kind := .controlOutput, key := "exit", label := "Exit" },
            { kind := .valueInput, key := "speed", label := "Speed" }] } },
   { name := "Health"
     body :=
       { title := "Health"
         ports :=
           [{ kind := .valueInput, key := "damage", label := "Damage" },
            { kind := .valueOutput, key := "current", label := "Current" }] } }]

/-- The sources of the standard host. -/
def sources : List Source :=
  [NodeType.source nodeTypes, Manifest.source manifests, Shortcut.aliases, Shortcut.literals,
   Shortcut.scalars, Shortcut.assets assets]

end Standard

end GraphDraft
