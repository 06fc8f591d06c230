import GraphDraft.Blueprint
import GraphDraft.Point

/-!
# Documents

A document holds graphs and nodes. A node stands in one graph; a composite also owns one, its body,
whose port definitions decide the ports of the composite. The rest of a document is the selection,
the pointer, the variables of the scopes that no graph owns, and the counters that keep identities
fresh. The revision counts changes.
-/

namespace GraphDraft

structure NodeId where
  index : Nat
deriving DecidableEq, Repr, Inhabited

structure GraphId where
  index : Nat
deriving DecidableEq, Repr, Inhabited

structure DefinitionId where
  index : Nat
deriving DecidableEq, Repr, Inhabited

def NodeId.text (i : NodeId) : String :=
  "Node(" ++ toString i.index ++ ")"

def GraphId.text (i : GraphId) : String :=
  "Graph(" ++ toString i.index ++ ")"

def DefinitionId.text (i : DefinitionId) : String :=
  "Def(" ++ toString i.index ++ ")"

/-- The graph at the top, which no node owns. -/
def GraphId.root : GraphId := ⟨0⟩

/-- Labels of value ports with more characters than this are hidden. -/
def longestValueLabel : Nat := 6

/-- Whether a label goes without saying: a long one, or the usual name of a control port. -/
def hidesLabel (kind : PortKind) (label : String) : Bool :=
  match kind with
  | .valueInput | .valueOutput => longestValueLabel < label.length
  | .controlInput => label = "Enter"
  | .controlOutput => label = "Exit"

/-- A port that a graph shows on the composite that owns it. -/
structure PortDefinition where
  id : DefinitionId
  kind : PortKind
  key : String
  label : String
  hidden : Bool
  type : DataType
deriving DecidableEq, Repr

def PortPlan.define (p : PortPlan) (id : DefinitionId) : PortDefinition where
  id := id
  kind := p.kind
  key := p.key
  label := p.label
  hidden := hidesLabel p.kind p.label
  type := p.type

inductive EdgeKind where
  | control
  | value
deriving DecidableEq, Repr

/-- A connection from an output to an input of another node of the same graph. -/
structure Edge where
  kind : EdgeKind
  source : NodeId
  output : String
  target : NodeId
  input : String
deriving DecidableEq, Repr

structure Node where
  /-- The graph in which the node stands. -/
  graph : GraphId
  kind : NodeKind
  title : String
  position : Point
  ports : Ports
  /-- The graph that a composite owns. -/
  body : Option GraphId
deriving DecidableEq, Repr

structure Graph where
  title : String
  /-- The composite whose body the graph is. -/
  owner : Option NodeId := none
  /-- The nodes in the order in which they were added. -/
  nodes : List NodeId := []
  edges : List Edge := []
  definitions : List PortDefinition := []
  declarations : Declarations := {}
deriving DecidableEq, Repr

structure Document where
  graphs : Store GraphId Graph
  nodes : Store NodeId Node := {}
  /-- The selected nodes; the first one is the anchor of what is typed. -/
  selection : List NodeId := []
  pointer : Point := .origin
  objectVariables : Declarations := {}
  sceneVariables : Declarations := {}
  applicationVariables : Declarations := {}
  savedVariables : Declarations := {}
  nextNode : Nat := 0
  nextGraph : Nat := 1
  nextDefinition : Nat := 0
  revision : Nat := 0
deriving DecidableEq, Repr

namespace Document

/-- A document with an empty root graph. -/
def empty (title : String) : Document where
  graphs := Store.put {} GraphId.root { title }

def graph? (d : Document) (g : GraphId) : Option Graph :=
  d.graphs.get? g

def node? (d : Document) (n : NodeId) : Option Node :=
  d.nodes.get? n

/-- The nodes of a graph with their identities, in order. -/
def nodesIn (d : Document) (g : GraphId) : List (NodeId × Node) :=
  ((d.graph? g).map (·.nodes)).getD [] |>.filterMap fun n => (d.node? n).map (n, ·)

/-- The document, one revision later. -/
def touch (d : Document) : Document :=
  { d with revision := d.revision + 1 }

/-! ## Changing one part of a node or a graph -/

def mapPosition (d : Document) (n : NodeId) (f : Point → Point) : Document :=
  { d with nodes := d.nodes.modify n fun x => { x with position := f x.position } }

def mapPorts (d : Document) (n : NodeId) (f : Ports → Ports) : Document :=
  { d with nodes := d.nodes.modify n fun x => { x with ports := f x.ports } }

def mapListed (d : Document) (g : GraphId) (f : List NodeId → List NodeId) : Document :=
  { d with graphs := d.graphs.modify g fun x => { x with nodes := f x.nodes } }

def mapEdges (d : Document) (g : GraphId) (f : List Edge → List Edge) : Document :=
  { d with graphs := d.graphs.modify g fun x => { x with edges := f x.edges } }

def mapDefinitions (d : Document) (g : GraphId)
    (f : List PortDefinition → List PortDefinition) : Document :=
  { d with graphs := d.graphs.modify g fun x => { x with definitions := f x.definitions } }

def mapDeclarations (d : Document) (g : GraphId) (f : Declarations → Declarations) : Document :=
  { d with graphs := d.graphs.modify g fun x => { x with declarations := f x.declarations } }

/-! ## Selection, pointer and positions -/

/-- Keeps a node that is live and not yet among those kept. -/
def keepLive (d : Document) (kept : List NodeId) (n : NodeId) : List NodeId :=
  if d.nodes.contains n && !kept.contains n then kept ++ [n] else kept

/-- Keeps the first occurrence of each live node. -/
def liveOnce (d : Document) (ns : List NodeId) : List NodeId :=
  ns.foldl d.keepLive []

/-- Replaces the selection; unknown and repeated nodes are left out. -/
def setSelection (d : Document) (ns : List NodeId) : Document :=
  { d with selection := d.liveOnce ns }.touch

/-- Selects one node, or none. -/
def select (d : Document) (n : Option NodeId) : Document :=
  d.setSelection n.toList

/-- The first selected node, if it still exists. -/
def anchor? (d : Document) : Option (NodeId × Node) :=
  d.selection.head?.bind fun n => (d.node? n).map (n, ·)

/-- Whether a node can be added to the selection. -/
def canExtendSelection (d : Document) (n : NodeId) : Bool :=
  d.nodes.contains n && !d.selection.contains n

/-- Adds a node to the selection, unless it is unknown or selected already. -/
def extendSelection (d : Document) (n : NodeId) : Document :=
  if d.canExtendSelection n then { d with selection := d.selection ++ [n] }.touch else d

/-- Selects the nodes of a graph, in order. -/
def selectGraph (d : Document) (g : GraphId) : Document :=
  d.setSelection (((d.graph? g).map (·.nodes)).getD [])

/-- Moves the pointer. The revision does not count this. -/
def setPointer (d : Document) (p : Point) : Document :=
  { d with pointer := p }

/-- Moves a node. -/
def setPosition (d : Document) (n : NodeId) (p : Point) : Document :=
  if d.nodes.contains n then (d.mapPosition n fun _ => p).touch else d

/-! ## Variables -/

/-- The declarations of a scope, where the graph scope is that of graph `g`. -/
def declarations? (d : Document) (scope : Scope) (g : GraphId) : Option Declarations :=
  match scope with
  | .graph => (d.graph? g).map (·.declarations)
  | .object => some d.objectVariables
  | .scene => some d.sceneVariables
  | .application => some d.applicationVariables
  | .saved => some d.savedVariables

/-- Changes the declarations of a scope. Reaching for them counts as a change even if the scope
does not exist. -/
def modifyVariables (d : Document) (scope : Scope) (g : GraphId)
    (f : Declarations → Declarations) : Document :=
  touch <| match scope with
  | .graph => d.mapDeclarations g f
  | .object => { d with objectVariables := f d.objectVariables }
  | .scene => { d with sceneVariables := f d.sceneVariables }
  | .application => { d with applicationVariables := f d.applicationVariables }
  | .saved => { d with savedVariables := f d.savedVariables }

end Document

end GraphDraft
