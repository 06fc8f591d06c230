import GraphDraft.Draft.Basic

/-!
# Wiring

Which edges two nodes get. Control goes from the first free control output of the source; then each
value output goes to the first free input that accepts it.
-/

namespace GraphDraft

namespace Document

/-- Whether any output of one node could be joined to any input of another. -/
def canFeed (d : Document) (source target : NodeId) : Bool :=
  match d.node? source, d.node? target with
  | some s, some t =>
    s.ports.controlOutputs.any (fun o => t.ports.controlInputs.any fun i =>
      d.canConnect ⟨.control, source, o, target, i⟩) ||
    s.ports.valueOutputs.any (fun o => t.ports.valueInputs.any fun i =>
      d.canConnect ⟨.value, source, o.key, target, i.key⟩)
  | _, _ => false

/-- The first edge from an output to one of some inputs that can be made. -/
def firstEdge? (d : Document) (kind : EdgeKind) (source : NodeId) (output : String)
    (target : NodeId) (inputs : List String) : Option Edge :=
  (inputs.map (Edge.mk kind source output target)).find? d.canConnect

/-- The control edge from one node to another, if it can be made. -/
def controlEdge? (d : Document) (source target : NodeId) (s t : Ports) : Option Edge :=
  (s.controlOutputs.find? fun o => !d.outputConnected source .control o).bind fun o =>
    d.firstEdge? .control source o target t.controlInputs

/-- Joins outputs, in order, each to the first input that takes it; also gives the edges. -/
def wireValues (source target : NodeId) (inputs : List String) :
    List String → Document → List Edge × Document
  | [], d => ([], d)
  | o :: os, d =>
    match d.firstEdge? .value source o target inputs with
    | some e =>
      let (es, d) := wireValues source target inputs os (d.addEdge e)
      (e :: es, d)
    | none => wireValues source target inputs os d

/-- Joins one node to another; also gives the edges made, in order. -/
def wire (d : Document) (source target : NodeId) : List Edge × Document :=
  match d.node? source, d.node? target with
  | some s, some t =>
    let control := d.controlEdge? source target s.ports t.ports
    let d := control.elim d d.addEdge
    let (values, d) := wireValues source target (t.ports.valueInputs.map (·.key))
      (s.ports.valueOutputs.map (·.key)) d
    (control.toList ++ values, d)
  | _, _ => ([], d)

/-- Joins each of some nodes to the next one. -/
def wireChain : List NodeId → Document → List Edge × Document
  | n :: m :: ns, d =>
    let (es, d) := d.wire n m
    let (fs, d) := wireChain (m :: ns) d
    (es ++ fs, d)
  | _, d => ([], d)

/-- The selected nodes from left to right, those above each other as they were selected. -/
def selectedAcross (d : Document) : List NodeId :=
  let placed := d.selection.filterMap fun n =>
    (d.node? n).map fun x => (n, Point.orderKey x.position.x)
  (placed.mergeSort fun a b => a.2 ≤ b.2).map (·.1)

end Document

namespace Draft

/-- Chains the selected nodes from left to right, noting each edge. Also gives their number. -/
def connectSelection (d : Draft) : Nat × Draft :=
  let (es, document) := Document.wireChain d.document.selectedAcross d.document
  (es.length, { d with document, journal := d.journal ++ es.map .edgeConnected })

end Draft

end GraphDraft
