import GraphDraft.Store

/-!
# Configuration

Key bindings and settings by name, the host libraries that feed the catalog, and extra names for
catalog entries and verbs.
-/

namespace GraphDraft

/-- A second name for something that is found under `target`. -/
structure Alias where
  name : String
  target : String
deriving DecidableEq, Repr

inductive Setting where
  | bool (b : Bool)
  | int (n : Int)
  | string (s : String)
deriving DecidableEq, Repr

structure Config where
  /-- Names of actions under the names of keys. -/
  bindings : Store String String := {}
  settings : Store String Setting := {}
  /-- The assemblies whose types are scanned. -/
  assemblies : List String := []
  /-- Types in namespaces that contain one of these are not scanned. -/
  excludedNamespaces : List String := []
  unitAliases : List Alias := []
  verbAliases : List Alias := []

namespace Config

def bind (c : Config) (key action : String) : Config :=
  { c with bindings := c.bindings.put key action }

def set (c : Config) (name : String) (value : Setting) : Config :=
  { c with settings := c.settings.put name value }

def aliasUnit (c : Config) (name target : String) : Config :=
  { c with unitAliases := c.unitAliases ++ [⟨name, target⟩] }

def aliasVerb (c : Config) (name target : String) : Config :=
  { c with verbAliases := c.verbAliases ++ [⟨name, target⟩] }

/-- The text of a setting that holds one. -/
def string? (c : Config) (name : String) : Option String :=
  match c.settings.get? name with
  | some (.string s) => some s
  | _ => none

/-- The name of the setting that titles new documents. -/
def titleSetting : String := "document_title"

/-- The title of a new document. -/
def documentTitle (c : Config) : String :=
  (c.string? titleSetting).getD "Main"

/-- The configuration of a user who has changed nothing. -/
def standard : Config where
  bindings := ⟨[("Enter", "confirm"), ("Esc", "cancel"), ("^G", "cancel"), ("^C", "quit"),
    ("^Q", "quit"), ("^R", "rebuild"), ("^A", "select-all"), ("^E", "connect-selection")]⟩
  settings := ⟨[(titleSetting, .string "Main"), ("log_filter", .string "graphprompt=info")]⟩
  assemblies := ["Engine.Core", "Engine.Math"]
  excludedNamespaces := ["Engine.Internal"]
  unitAliases := [⟨"log", "debug.log(object)"⟩, ⟨"tick", "onupdate"⟩, ⟨"start", "onstart"⟩]
  verbAliases := [⟨"u:", "unit:"⟩, ⟨"d:", "defaultvalue:"⟩, ⟨"v:", "vargraph:"⟩,
    ⟨"sv:", "setvargraph:"⟩, ⟨"sg:", "subgraph:"⟩]

end Config

end GraphDraft
