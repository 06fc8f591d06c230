import GraphDraft.Catalog.Standard
import GraphDraft.Command.Defaults
import GraphDraft.Command.Intent

/-!
# Running commands

What intents do to a draft. An intent that cannot be carried out gives the reason and leaves the
draft as it was; the intents after it are run all the same.
-/

namespace GraphDraft

/-- Why an intent cannot be carried out. -/
inductive CommandError where
  | nothingSelected
  | noFreePort (kind : PortKind)
  | emptyDerivedName
  | emptyName (kind : PortKind)
deriving DecidableEq, Repr

namespace CommandError

def message : CommandError → String
  | nothingSelected => "Nothing is selected"
  | noFreePort kind => "No free " ++ kind.text ++ " on the selected node"
  | emptyDerivedName => "Derived variable name is empty"
  | emptyName kind => "New " ++ kind.text ++ " needs a name"

/-- Whether the user is told. -/
def isWarning : CommandError → Bool
  | emptyDerivedName => false
  | _ => true

end CommandError

/-- What is left of a draft after an intent, and why the intent failed if it did. -/
structure Outcome where
  draft : Draft
  error : Option CommandError := none

namespace Draft

def done (d : Draft) : Outcome := ⟨d, none⟩

def refuse (d : Draft) (e : CommandError) : Outcome := ⟨d, some e⟩

/-! ## Units and subgraphs -/

/-- How many names a hint is made of. -/
def hintSize : Nat := 10

/-- Creates a node beside the selection and goes on with it. -/
def create (d : Draft) (b : Blueprint) (left : Bool) : Draft :=
  ((d.createNode b left).map (·.2)).getD d

/-- Creates the first entry that matches a query. The last token of a line also gives a hint. -/
def createUnit (catalog : Catalog) (query : String) (left isLast : Bool) (d : Draft) : Outcome :=
  let found := catalog.search query (if isLast then hintSize else 1)
  match found.head? with
  | none => d.done
  | some e =>
    let d := d.create e.blueprint left
    if isLast then { d with feedback := { d.feedback with hint := some (Catalog.hint found) } }.done
    else d.done

/-- The body of a new subgraph. -/
def newBody (title : String) (entry exit : Bool) : BodyPlan where
  title := title
  ports :=
    (if entry then [{ kind := .controlInput, key := "enter", label := "Enter" }] else []) ++
      if exit then [{ kind := .controlOutput, key := "exit", label := "Exit" }] else []

/-- Creates a composite with an empty body. -/
def createSubgraph (title : String) (entry exit left : Bool) (d : Draft) : Outcome :=
  (d.create (.composite none (newBody title entry exit)) left).done

/-! ## Ports and values -/

/-- Adds a port to the selected composite, or to the root graph. -/
def addPort (kind : PortKind) (name : String) (d : Draft) : Outcome :=
  if name = "" then d.refuse (.emptyName kind)
  else (((d.definePort d.editedGraph kind name).map (·.2)).getD d).done

/-- Writes claimed values into the inputs of the selected node. -/
def applyClaims (claims : List Claim) (d : Draft) : Outcome :=
  match d.document.selection.head? with
  | some n => (d.setClaims n claims).done
  | none => d.refuse .nothingSelected

/-- Fills the inputs of the selected node. -/
def assignDefaults (values : List String) (d : Draft) : Outcome :=
  match Claim.probe d.document values with
  | some claims => d.applyClaims claims
  | none => d.refuse .nothingSelected

/-! ## Variables -/

/-- The port that a variable is linked to: the first free output of the selected node for writing,
the first free input for reading. -/
def linkedPort? (d : Document) (n : NodeId) (p : Ports) (access : Access) :
    Option (String × DataType) :=
  match access with
  | .set =>
    (p.valueOutputs.find? fun o => !d.outputConnected n .value o.key).map fun o => (o.key, o.type)
  | .get =>
    (p.valueInputs.find? fun i => !d.inputConnected n .value i.key).map fun i => (i.key, i.type)

/-- The kind of port that a variable is linked to. -/
def linkedKind : Access → PortKind
  | .set => .valueOutput
  | .get => .valueInput

/-- The name of a variable that is named after a port: its key without punctuation. -/
def derivedName (key : String) : String :=
  String.ofList (key.toList.filter fun c => c ≠ '%' && !isForbidden c)

/-- Makes an edge if it can be made. -/
def join (d : Draft) (e : Edge) : Draft :=
  { d with document := d.document.connect e }

/-- Declares a variable and places a node that reads or writes it, joined to a port. -/
def placeAccessor (scope : Scope) (access : Access) (name : String) (n : NodeId) (x : Node)
    (key : String) (type : DataType) (d : Draft) : Draft :=
  let d := (d.declareVariable scope x.graph name type).2
  match access with
  | .set =>
    let position := x.position + Layout.rightOffset x.ports
    match d.placeNode x.graph (Standard.setVariable scope name type) position with
    | some (id, d) => d.join ⟨.value, n, key, id, "input"⟩
    | none => d
  | .get =>
    let position := x.position + Layout.leftOffset
    match d.placeNode x.graph (Standard.getVariable scope name type) position with
    | some (id, d) => d.join ⟨.value, id, "value", n, key⟩
    | none => d

/-- Links a variable to a port of the selected node. -/
def linkVariable (scope : Scope) (access : Access) (name : Option String) (d : Draft) : Outcome :=
  match d.document.anchor? with
  | none => d.refuse .nothingSelected
  | some (n, x) =>
    match linkedPort? d.document n x.ports access with
    | none => d.refuse (.noFreePort (linkedKind access))
    | some (key, type) =>
      let name := name.getD (derivedName key)
      if name = "" then d.refuse .emptyDerivedName
      else (d.placeAccessor scope access name n x key type).done

/-! ## Going up and listing -/

/-- Pops a node and selects it, some times or until none is left. -/
def popSelect : (count : Nat) → Draft → Draft
  | 0, d => d
  | count + 1, d =>
    match d.stack.getLast? with
    | some n =>
      popSelect count { d with stack := d.stack.dropLast, document := d.document.select n }
    | none => d

/-- Leaves the newest node, and goes back to earlier ones. With one node there is nowhere to go.
The number of nodes bounds the number of steps. -/
def goUp (count : Nat) (d : Draft) : Outcome :=
  if d.stack.length ≤ 1 then d.done
  else (popSelect (min count d.stack.length) { d with stack := d.stack.dropLast }).done

/-- How many names are listed at most. -/
def listingLimit : Nat := 1000

/-- Lists the entries that match a query. -/
def showAll (catalog : Catalog) (query : String) (d : Draft) : Outcome :=
  (d.say (Catalog.listing (catalog.search query listingLimit))).done

/-! ## Bare tokens -/

/-- What a bare token does: a unit, if one matches and the token is no number or truth value that an
input would take; else values for inputs, if they are taken; else a subgraph with that title. -/
def runBare (catalog : Catalog) (arguments : List String) (left isLast : Bool) (d : Draft) :
    Outcome :=
  let name := arguments.headD ""
  let claims := (Claim.probe d.document arguments).getD []
  let isLiteral := claims.head?.any fun c => !c.value.isString
  let found := catalog.finds name
  if found && !isLiteral then d.createUnit catalog name left isLast
  else if !claims.isEmpty then d.applyClaims claims
  else if found then d.createUnit catalog name left isLast
  else d.createSubgraph name true true left

end Draft

/-- Runs an intent. -/
def Intent.run (catalog : Catalog) (i : Intent) (d : Draft) : Outcome :=
  match i with
  | bare arguments left isLast => d.runBare catalog arguments left isLast
  | createUnit query left isLast => d.createUnit catalog query left isLast
  | goUp count => d.goUp count
  | createSubgraph title entry exit left => d.createSubgraph title entry exit left
  | addPort kind name => d.addPort kind name
  | assignDefaults values => d.assignDefaults values
  | linkVariable scope access name => d.linkVariable scope access name
  | showAll query => d.showAll catalog query

/-- Tells the user of a failure that concerns them. -/
def Outcome.report (o : Outcome) : Draft :=
  match o.error with
  | some e => if e.isWarning then o.draft.say e.message else o.draft
  | none => o.draft

/-- Runs intents in order; also gives the number of those that failed. -/
def runAll (catalog : Catalog) : List Intent → Draft → Nat × Draft
  | [], d => (0, d)
  | i :: is, d =>
    let o := i.run catalog d
    let (failures, d) := runAll catalog is o.report
    (failures + o.error.toList.length, d)

end GraphDraft
