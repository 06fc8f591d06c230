import GraphDraft.Catalog.Source

/-!
# Shortcuts

Names on top of what was discovered: configured aliases, constants, short names of arithmetic on
scalars, and graph assets.
-/

namespace GraphDraft

/-- A reusable graph. -/
structure Asset where
  name : String
  body : BodyPlan
deriving DecidableEq, Repr

/-- A node that gives a constant. -/
def Blueprint.literal (type : DataType) : Blueprint where
  kind := .literal type
  title := type.text ++ " Literal"
  ports := { valueOutputs := [⟨"output", type⟩] }

namespace Shortcut

/-- Entries for the aliases of a configuration whose target was discovered. -/
def aliases : Source where
  stage := .shortcut
  entries := fun config discovered =>
    config.unitAliases.filterMap fun a =>
      (discovered.find? (·.name = a.target)).map fun e => .named a.name e.build

/-- The constants that can be made, by their names. -/
def literalTypes : List (String × DataType) :=
  [("1", .float), ("s", .string), ("int", .int), ("bool", .bool), ("listint", .list .int),
   ("listbool", .list .bool), ("listfloat", .list .float),
   ("listvector2", .list (.named "Vector2")), ("listvector3", .list (.named "Vector3")),
   ("listquaternion", .list (.named "Quaternion")), ("listobject", .list .object),
   ("listtransform", .list (.named "Transform")),
   ("listgameobject", .list (.named "GameObject"))]

/-- Entries for constants. -/
def literals : Source :=
  .fixed .shortcut (literalTypes.map fun (name, type) => .named name (.ok (.literal type)))

/-- The start of the names of arithmetic on scalars. -/
def scalar : String := "scalar"

/-- The rest of a name that begins with `scalar` and goes on. -/
def scalarRest? (name : String) : Option String :=
  match scalar.toList.isPrefixOf? name.toList with
  | some (c :: cs) => some (String.ofList (c :: cs))
  | _ => none

/-- Entries for discovered names without their `scalar`. -/
def scalars : Source where
  stage := .shortcut
  entries := fun _ discovered =>
    discovered.filterMap fun e => (scalarRest? e.name).map fun rest => .named rest e.build

/-- Entries for assets, under a number sign. -/
def assets (as : List Asset) : Source :=
  .fixed .shortcut (as.map fun a =>
    .named ("#" ++ Text.lowercase a.name) (.ok (.composite (some a.name) a.body)))

end Shortcut

end GraphDraft
