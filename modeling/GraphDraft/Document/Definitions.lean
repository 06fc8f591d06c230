import GraphDraft.Document.Edges

/-!
# Port definitions

The ports of a composite are those that its body defines, kind by kind and in order. Whenever the
definitions change, the ports are derived anew and edges whose ports are gone are dropped.
-/

namespace GraphDraft

/-- The definitions of one kind, in order. -/
def definitionsOf (kind : PortKind) (ds : List PortDefinition) : List PortDefinition :=
  ds.filter (·.kind = kind)

/-- The ports that definitions give to their composite. Its inputs hold no values. -/
def Ports.ofDefinitions (ds : List PortDefinition) : Ports where
  controlInputs := (definitionsOf .controlInput ds).map (·.key)
  controlOutputs := (definitionsOf .controlOutput ds).map (·.key)
  valueInputs := (definitionsOf .valueInput ds).map fun d => { key := d.key, type := d.type }
  valueOutputs := (definitionsOf .valueOutput ds).map fun d => ⟨d.key, d.type⟩

/-- Whether the ends that an edge has at a node are keys of ports. -/
def Edge.fits (e : Edge) (n : NodeId) (p : Ports) : Bool :=
  (e.target ≠ n || p.inputKeys.contains e.input) && (e.source ≠ n || p.outputKeys.contains e.output)

namespace Document

/-- Gives the owner of a graph the ports that the graph defines. -/
def derivePorts (d : Document) (g : GraphId) : Document :=
  match d.graph? g with
  | none => d
  | some body =>
    match body.owner.bind fun n => (d.node? n).map (n, ·) with
    | none => d
    | some (n, owner) =>
      let ports := Ports.ofDefinitions body.definitions
      (d.mapPorts n fun _ => ports).mapEdges owner.graph (·.filter (·.fits n ports))

/-- Tells the document that the definitions of a graph have changed. -/
def definitionsChanged (d : Document) (g : GraphId) : Document :=
  (d.derivePorts g).touch

/-- Changes the definitions of a graph and tells the document. -/
def editDefinitions (d : Document) (g : GraphId)
    (f : List PortDefinition → List PortDefinition) : Document :=
  (d.mapDefinitions g f).definitionsChanged g

/-- Gives plans consecutive identities. -/
def definitionsFrom (next : Nat) : List PortPlan → List PortDefinition
  | [] => []
  | p :: ps => p.define ⟨next⟩ :: definitionsFrom (next + 1) ps

/-- Appends a port definition; none if the graph is unknown. -/
def addDefinition (d : Document) (g : GraphId) (p : PortPlan) : Option (DefinitionId × Document) :=
  if d.graphs.contains g then
    let id : DefinitionId := ⟨d.nextDefinition⟩
    let d := { d with nextDefinition := d.nextDefinition + 1 }
    some (id, d.editDefinitions g (· ++ [p.define id]))
  else none

/-- Whether a graph has a definition. -/
def hasDefinition (d : Document) (g : GraphId) (id : DefinitionId) : Bool :=
  ((d.graph? g).map fun x => x.definitions.any (·.id = id)).getD false

/-- Takes a port definition out of a graph, if it is there. -/
def removeDefinition (d : Document) (g : GraphId) (id : DefinitionId) : Document :=
  if d.hasDefinition g id then d.editDefinitions g (·.filter (·.id ≠ id)) else d

end Document

end GraphDraft
