import GraphDraft.Document.Definitions

/-!
# Nodes

Adding a node gives it, and its body if it has one, fresh identities. Removing a node removes its
edges, and its body with everything in it.
-/

namespace GraphDraft.Document

/-- Adds the body of the node that is about to be added. -/
def addBody (d : Document) (owner : NodeId) (b : BodyPlan) : Document :=
  { d with
    nextGraph := d.nextGraph + 1
    nextDefinition := d.nextDefinition + b.ports.length
    graphs := d.graphs.put ⟨d.nextGraph⟩
      { title := b.title
        owner := some owner
        definitions := definitionsFrom d.nextDefinition b.ports } }

/-- Puts a node into its graph. -/
def insert (d : Document) (id : NodeId) (x : Node) : Document :=
  { d with nodes := d.nodes.put id x }.mapListed x.graph (· ++ [id])

/-- Adds a node to a graph; none if the graph is unknown. -/
def addNode (d : Document) (g : GraphId) (b : Blueprint) (p : Point) :
    Option (NodeId × Document) :=
  if d.graphs.contains g then
    let id : NodeId := ⟨d.nextNode⟩
    let body := b.body.map fun _ => GraphId.mk d.nextGraph
    let node : Node :=
      { graph := g, kind := b.kind, title := b.title, position := p, ports := b.ports, body }
    let d := { d with nextNode := d.nextNode + 1 }
    let d := (b.body.elim d (d.addBody id)).insert id node
    some (id, (body.elim d d.derivePorts).touch)
  else none

/-- Takes a node out of the list of its graph, out of the edges and out of the selection. -/
def detach (d : Document) (id : NodeId) (g : GraphId) : Document :=
  let d := d.mapListed g (·.filter (· ≠ id))
  let d := d.mapEdges g (·.filter fun e => e.source ≠ id && e.target ≠ id)
  { d with selection := d.selection.filter (· ≠ id) }.touch

/-- Removes a node and, if it has a body, the body and its nodes, to a depth of `depth`. -/
def removeWithin : (depth : Nat) → NodeId → Document → Document
  | 0, _, d => d
  | depth + 1, id, d =>
    match d.node? id with
    | none => d
    | some node =>
      let d := { d with nodes := d.nodes.erase id }
      let d := match node.body.bind fun g => (d.graph? g).map (g, ·) with
        | some (g, body) =>
          body.nodes.foldl (fun d n => removeWithin depth n d) { d with graphs := d.graphs.erase g }
        | none => d
      d.detach id node.graph

/-- Removes a node with its edges and its body. Each level of nesting has a node of its own, so
their number bounds the depth. -/
def removeNode (d : Document) (id : NodeId) : Document :=
  removeWithin d.nodes.size id d

/-- The value held by the first input of a key, if it can hold one. -/
def heldValue? (d : Document) (id : NodeId) (key : String) : Option Value :=
  (d.node? id).bind fun n => (n.ports.valueInput? key).bind (·.default)

/-- Writes a value into the first input of a key. -/
def fill (key : String) (v : Value) : List ValueInput → List ValueInput
  | [] => []
  | i :: is => if i.key = key then { i with default := some v } :: is else i :: fill key v is

/-- Overwrites the value that an input holds, if it can hold one. -/
def setDefault (d : Document) (id : NodeId) (key : String) (v : Value) : Document :=
  if (d.heldValue? id key).isSome then
    (d.mapPorts id fun p => { p with valueInputs := fill key v p.valueInputs }).touch
  else d

end GraphDraft.Document
