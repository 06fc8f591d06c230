import GraphDraft.Document.Basic

/-!
# Edges

An edge joins a free output to a free input that accepts it; no port is used twice.
-/

namespace GraphDraft.Document

/-- The edges of the graph in which a node stands. -/
def edgesAround (d : Document) (n : NodeId) : List Edge :=
  ((d.node? n).bind fun x => (d.graph? x.graph).map (·.edges)).getD []

/-- Whether an edge ends at an input. -/
def inputConnected (d : Document) (n : NodeId) (kind : EdgeKind) (key : String) : Bool :=
  (d.edgesAround n).any fun e => e.kind = kind && e.target = n && e.input = key

/-- Whether an edge starts at an output. -/
def outputConnected (d : Document) (n : NodeId) (kind : EdgeKind) (key : String) : Bool :=
  (d.edgesAround n).any fun e => e.kind = kind && e.source = n && e.output = key

/-- Whether two nodes have the ports of an edge, with types that fit. -/
def portsMatch (kind : EdgeKind) (source : Ports) (output : String) (target : Ports)
    (input : String) : Bool :=
  match kind with
  | .control => source.controlOutputs.contains output && target.controlInputs.contains input
  | .value =>
    match source.valueOutput? output, target.valueInput? input with
    | some o, some i => i.type.accepts o.type
    | _, _ => false

/-- Whether an edge could be made now. -/
def canConnect (d : Document) (e : Edge) : Bool :=
  match d.node? e.source, d.node? e.target with
  | some s, some t =>
    e.source ≠ e.target && s.graph = t.graph &&
      portsMatch e.kind s.ports e.output t.ports e.input &&
      !d.outputConnected e.source e.kind e.output && !d.inputConnected e.target e.kind e.input
  | _, _ => false

/-- Appends an edge to the graph of its source. -/
def addEdge (d : Document) (e : Edge) : Document :=
  match d.node? e.source with
  | some s => (d.mapEdges s.graph (· ++ [e])).touch
  | none => d

/-- Makes an edge if it can be made. -/
def connect (d : Document) (e : Edge) : Document :=
  if d.canConnect e then d.addEdge e else d

/-- Whether the document has an edge. -/
def hasEdge (d : Document) (e : Edge) : Bool :=
  (d.edgesAround e.source).contains e

/-- Removes the first edge equal to `e`. -/
def disconnect (d : Document) (e : Edge) : Document :=
  match d.node? e.source with
  | some s =>
    if d.hasEdge e then (d.mapEdges s.graph (·.erase e)).touch else d
  | none => d

end GraphDraft.Document
