import GraphDraft.Draft.Wiring
import GraphDraft.Text.Lowercase

/-!
# Changing a draft

The ways in which commands change a document. Each notes in the journal what it takes to undo it;
the edges that go with a new node need no note of their own, since they go away with the node.
-/

namespace GraphDraft.Draft

/-- The side of the anchor on which a new node goes: the one asked for, unless only the other one
can be wired. -/
def side (d : Document) (anchor new : NodeId) (left : Bool) : Bool :=
  let intoAnchor := d.canFeed new anchor
  let fromAnchor := d.canFeed anchor new
  if left && !intoAnchor && fromAnchor then false
  else if !fromAnchor && intoAnchor then true
  else left

/-- Places a new node beside the anchor and joins the two. -/
def attach (d : Document) (id anchorId : NodeId) (anchor : Node) (left : Bool) : Document :=
  let left := side d anchorId id left
  let d := d.setPosition id (Layout.beside anchor left)
  if left then (d.wire id anchorId).2 else (d.wire anchorId id).2

/-- Creates a node beside the selection, or at the pointer of the root graph if nothing is
selected, and selects it. -/
def createNode (d : Draft) (b : Blueprint) (left : Bool) : Option (NodeId × Draft) :=
  let anchor := d.document.anchor?
  let graph := anchor.elim .root (·.2.graph)
  let start := anchor.elim d.document.pointer (·.2.position)
  (d.document.addNode graph b start).map fun (id, document) =>
    let document := match anchor with
      | some (anchorId, anchor) => attach document id anchorId anchor left
      | none => document
    let document := (Layout.spaceOut document id).2.select id
    (id, { d with document, stack := d.stack ++ [id] }.record (.nodeCreated id))

/-- Places a node without selecting it. -/
def placeNode (d : Draft) (graph : GraphId) (b : Blueprint) (position : Point) :
    Option (NodeId × Draft) :=
  (d.document.addNode graph b position).map fun (id, document) =>
    (id, { d with document }.record (.nodeCreated id))

/-- Joins one node to another; also gives the number of edges. -/
def connectNodes (d : Draft) (source target : NodeId) : Nat × Draft :=
  let (es, document) := d.document.wire source target
  (es.length, { d with document })

/-- Adds a port to a graph under the lowercase form of its name. -/
def definePort (d : Draft) (graph : GraphId) (kind : PortKind) (name : String) :
    Option (DefinitionId × Draft) :=
  (d.document.addDefinition graph { kind, key := Text.lowercase name, label := name }).map
    fun (id, document) => (id, { d with document }.record (.portDefined graph id))

/-- Declares a variable unless it is defined already, which is also what the answer says; none if
the scope does not exist. -/
def declareVariable (d : Draft) (scope : Scope) (graph : GraphId) (name : String)
    (type : DataType) : Option Bool × Draft :=
  match d.document.declarations? scope graph with
  | some vars =>
    let document := d.document.modifyVariables scope graph fun v =>
      if v.contains name then v else v.put name (.zero type)
    (some (vars.contains name),
      { d with document }.record (.variableDeclared scope graph name (vars.contains name)))
  | none => (none, { d with document := d.document.touch })

/-- Overwrites the value that an input holds. -/
def setDefault (d : Draft) (node : NodeId) (key : String) (v : Value) : Draft :=
  match d.document.heldValue? node key with
  | some previous =>
    { d with document := d.document.setDefault node key v }.record (.defaultSet node key previous)
  | none => d

end GraphDraft.Draft
