import GraphDraft.Document.Basic
import GraphDraft.Text.Lines

/-!
# Outlines

The plain text of a document. Nodes are numbered by their place in their graph and never named by
identity, so documents that were built in the same way have the same outline.
-/

namespace GraphDraft

namespace Graph

/-- The place of a node in its graph. -/
def indexOf? (g : Graph) (n : NodeId) : Option Nat :=
  g.nodes.findIdx? (· = n)

/-- The place of a node between brackets. -/
def place (g : Graph) (n : NodeId) : String :=
  "[" ++ (g.indexOf? n).elim "?" toString ++ "]"

end Graph

namespace Outline

/-- The indentation at a depth. -/
def indent (depth : Nat) : String :=
  String.ofList (List.replicate (2 * depth) ' ')

def definitionLine (p : PortDefinition) : String :=
  "port " ++ p.kind.text ++ " " ++ p.key ++ " " ++ Text.quoted p.label ++
    if p.hidden then " (label hidden)" else ""

def variableLine (v : String × Value) : String :=
  "var " ++ v.1 ++ " = " ++ v.2.text

def nodeLine (index : Nat) (n : Node) : String :=
  "[" ++ toString index ++ "] " ++ Text.quoted n.title ++ " " ++ n.kind.text ++ " at " ++
    n.position.text

/-- The values that inputs hold. -/
def heldLines (n : Node) : List String :=
  n.ports.valueInputs.filterMap fun i => i.default.map fun v => i.key ++ " = " ++ v.text

def arrow : EdgeKind → String
  | .control => " -> "
  | .value => " => "

def edgeLine (g : Graph) (e : Edge) : String :=
  g.place e.source ++ "." ++ e.output ++ arrow e.kind ++ g.place e.target ++ "." ++ e.input

/-- The lines of a graph at a depth, with the bodies of its nodes down to `levels` levels. -/
def graphLines (d : Document) : (levels : Nat) → GraphId → (depth : Nat) → List String
  | 0, _, _ => []
  | levels + 1, g, depth =>
    match d.graph? g with
    | none => []
    | some graph =>
      let within := (indent (depth + 1) ++ ·)
      let nodeLines := (d.nodesIn g).zipIdx.flatMap fun ((_, n), i) =>
        within (nodeLine i n) :: (heldLines n).map (indent (depth + 2) ++ ·) ++
          n.body.elim [] fun body => graphLines d levels body (depth + 2)
      (indent depth ++ "graph " ++ Text.quoted graph.title) ::
        graph.definitions.map (within <| definitionLine ·) ++
        graph.declarations.entries.map (within <| variableLine ·) ++
        nodeLines ++ graph.edges.map (within <| edgeLine graph ·)

/-- The path of a node from the root: titles of graphs and places of nodes. At most `levels` graphs
are named. -/
def pathWithin (d : Document) : (levels : Nat) → NodeId → Option String
  | 0, _ => none
  | levels + 1, n => do
    let node ← d.node? n
    let graph ← d.graph? node.graph
    let index ← graph.indexOf? n
    let here := graph.title ++ "/[" ++ toString index ++ "]"
    return ((graph.owner.bind (pathWithin d levels)).elim "" (· ++ "/")) ++ here

/-- The path of a node. A path names each graph at most once, so their number bounds it. -/
def path? (d : Document) (n : NodeId) : Option String :=
  pathWithin d d.graphs.size n

/-- The variables of the scopes that no graph owns. -/
def sharedLines (d : Document) : List String :=
  [Scope.object, .scene, .application, .saved].flatMap fun scope =>
    ((d.declarations? scope .root).map (·.entries)).getD [] |>.map fun v =>
      scope.text ++ " " ++ variableLine v

def selectionLine (d : Document) : String :=
  let paths := d.selection.filterMap (path? d)
  "selected " ++ if paths.isEmpty then "nothing" else ", ".intercalate paths

end Outline

/-- The lines of the outline of a document. -/
def Document.outlineLines (d : Document) : List String :=
  Outline.graphLines d d.graphs.size .root 0 ++ Outline.sharedLines d ++ [Outline.selectionLine d]

/-- The outline of a document. -/
def Document.outline (d : Document) : String :=
  Text.unlines d.outlineLines

end GraphDraft
