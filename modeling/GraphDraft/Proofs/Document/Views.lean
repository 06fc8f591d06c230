import GraphDraft.Document.Nodes
import GraphDraft.Proofs.Store

/-!
# Views of a document

The parts of nodes and graphs on which the invariants of documents depend, one view for each:
`place?` and `listing?` for how nodes and graphs contain each other, `ports?`, `edges?` and
`definitions?` for how they are joined. An operation is described by what it does to the views it
changes; the lemmas here say which views each simple operation keeps.
-/

namespace GraphDraft.Document

/-- The graph in which a node stands, and the body that it owns. -/
def place? (d : Document) (n : NodeId) : Option (GraphId × Option GraphId) :=
  (d.node? n).map fun x => (x.graph, x.body)

/-- The owner of a graph, and the nodes that it lists. -/
def listing? (d : Document) (g : GraphId) : Option (Option NodeId × List NodeId) :=
  (d.graph? g).map fun x => (x.owner, x.nodes)

def ports? (d : Document) (n : NodeId) : Option Ports :=
  (d.node? n).map (·.ports)

/-- The input keys and the output keys of a node. -/
def keys? (d : Document) (n : NodeId) : Option (List String × List String) :=
  (d.ports? n).map fun p => (p.inputKeys, p.outputKeys)

def edges? (d : Document) (g : GraphId) : Option (List Edge) :=
  (d.graph? g).map (·.edges)

def definitions? (d : Document) (g : GraphId) : Option (List PortDefinition) :=
  (d.graph? g).map (·.definitions)

/-- The variables that a graph declares. -/
def variables? (d : Document) (g : GraphId) : Option Declarations :=
  (d.graph? g).map (·.declarations)

/-! ## Reading a node or a graph -/

theorem place?_of_node? {d : Document} {n : NodeId} {x : Node} (h : d.node? n = some x) :
    d.place? n = some (x.graph, x.body) := by
  simp [place?, h]

theorem ports?_of_node? {d : Document} {n : NodeId} {x : Node} (h : d.node? n = some x) :
    d.ports? n = some x.ports := by
  simp [ports?, h]

theorem node?_of_place? {d : Document} {n : NodeId} {g : GraphId} {b : Option GraphId}
    (h : d.place? n = some (g, b)) : ∃ x, d.node? n = some x ∧ x.graph = g ∧ x.body = b := by
  simpa [place?, Option.map_eq_some_iff] using h

theorem listing?_of_graph? {d : Document} {g : GraphId} {x : Graph} (h : d.graph? g = some x) :
    d.listing? g = some (x.owner, x.nodes) := by
  simp [listing?, h]

theorem graph?_of_edges? {d : Document} {g : GraphId} {es : List Edge} (h : d.edges? g = some es) :
    ∃ x, d.graph? g = some x ∧ x.edges = es := by
  simpa [edges?, Option.map_eq_some_iff] using h

theorem edges?_of_graph? {d : Document} {g : GraphId} {x : Graph} (h : d.graph? g = some x) :
    d.edges? g = some x.edges := by
  simp [edges?, h]

theorem definitions?_of_graph? {d : Document} {g : GraphId} {x : Graph} (h : d.graph? g = some x) :
    d.definitions? g = some x.definitions := by
  simp [definitions?, h]

theorem graph?_of_listing? {d : Document} {g : GraphId} {o : Option NodeId} {ns : List NodeId}
    (h : d.listing? g = some (o, ns)) : ∃ x, d.graph? g = some x ∧ x.owner = o ∧ x.nodes = ns := by
  simpa [listing?, Option.map_eq_some_iff] using h

theorem anchor?_eq_some_iff {d : Document} {n : NodeId} {x : Node} :
    d.anchor? = some (n, x) ↔ d.selection.head? = some n ∧ d.node? n = some x := by
  simp [anchor?, Option.bind_eq_some_iff]

theorem contains_node_iff {d : Document} {n : NodeId} :
    d.nodes.contains n = true ↔ ∃ g b, d.place? n = some (g, b) := by
  rw [Store.contains_iff]
  refine ⟨fun ⟨x, hx⟩ => ⟨_, _, place?_of_node? hx⟩, fun ⟨g, b, h⟩ => ?_⟩
  obtain ⟨x, hx, -⟩ := node?_of_place? h
  exact ⟨x, hx⟩

theorem contains_graph_iff {d : Document} {g : GraphId} :
    d.graphs.contains g = true ↔ ∃ o ns, d.listing? g = some (o, ns) := by
  rw [Store.contains_iff]
  refine ⟨fun ⟨x, hx⟩ => ⟨_, _, listing?_of_graph? hx⟩, fun ⟨o, ns, h⟩ => ?_⟩
  obtain ⟨x, hx, -⟩ := graph?_of_listing? h
  exact ⟨x, hx⟩

/-- Each view depends on one of the two stores only. -/
theorem views_of_nodes {d e : Document} (h : e.nodes = d.nodes) :
    e.place? = d.place? ∧ e.ports? = d.ports? := by
  constructor <;> funext n <;> simp [place?, ports?, node?, h]

/-! ## Changing one part -/

section
variable (d : Document)

@[simp] theorem place?_touch : d.touch.place? = d.place? := rfl

@[simp] theorem listing?_touch : d.touch.listing? = d.listing? := rfl

@[simp] theorem ports?_touch : d.touch.ports? = d.ports? := rfl

@[simp] theorem edges?_touch : d.touch.edges? = d.edges? := rfl

@[simp] theorem definitions?_touch : d.touch.definitions? = d.definitions? := rfl

end

section
variable (d : Document) (n m : NodeId) (g h : GraphId)

theorem node?_mapPorts (f : Ports → Ports) : (d.mapPorts n f).node? m =
    if m = n then (d.node? m).map fun x => { x with ports := f x.ports } else d.node? m :=
  Store.get?_modify ..

@[simp] theorem place?_mapPorts (f : Ports → Ports) : (d.mapPorts n f).place? = d.place? :=
  funext <| Store.map_get?_modify fun _ _ => rfl

@[simp] theorem place?_mapPosition (f : Point → Point) : (d.mapPosition n f).place? = d.place? :=
  funext <| Store.map_get?_modify fun _ _ => rfl

@[simp] theorem ports?_mapPosition (f : Point → Point) : (d.mapPosition n f).ports? = d.ports? :=
  funext <| Store.map_get?_modify fun _ _ => rfl

@[simp] theorem keys?_mapPosition (f : Point → Point) : (d.mapPosition n f).keys? = d.keys? := by
  funext m
  rw [keys?, ports?_mapPosition, keys?]

@[simp] theorem listing?_mapPosition (f : Point → Point) :
    (d.mapPosition n f).listing? = d.listing? := rfl

@[simp] theorem edges?_mapPosition (f : Point → Point) : (d.mapPosition n f).edges? = d.edges? :=
  rfl

@[simp] theorem definitions?_mapPosition (f : Point → Point) :
    (d.mapPosition n f).definitions? = d.definitions? := rfl

@[simp] theorem variables?_mapPosition (f : Point → Point) :
    (d.mapPosition n f).variables? = d.variables? := rfl

@[simp] theorem graphs_mapPorts (f : Ports → Ports) : (d.mapPorts n f).graphs = d.graphs := rfl

@[simp] theorem listing?_mapPorts (f : Ports → Ports) : (d.mapPorts n f).listing? = d.listing? :=
  rfl

@[simp] theorem edges?_mapPorts (f : Ports → Ports) : (d.mapPorts n f).edges? = d.edges? := rfl

@[simp] theorem definitions?_mapPorts (f : Ports → Ports) :
    (d.mapPorts n f).definitions? = d.definitions? := rfl

@[simp] theorem variables?_mapPorts (f : Ports → Ports) :
    (d.mapPorts n f).variables? = d.variables? := rfl

theorem ports?_mapPorts (f : Ports → Ports) :
    (d.mapPorts n f).ports? m = if m = n then (d.ports? m).map f else d.ports? m := by
  rw [ports?, node?_mapPorts]
  split
  · rw [ports?, Option.map_map, Option.map_map]; rfl
  · rfl

section
variable (f : List Edge → List Edge)

@[simp] theorem keys_mapEdges : (d.mapEdges g f).graphs.keys = d.graphs.keys :=
  Store.keys_modify ..

@[simp] theorem place?_mapEdges : (d.mapEdges g f).place? = d.place? := rfl

@[simp] theorem ports?_mapEdges : (d.mapEdges g f).ports? = d.ports? := rfl

@[simp] theorem keys?_mapEdges : (d.mapEdges g f).keys? = d.keys? := rfl

@[simp] theorem listing?_mapEdges : (d.mapEdges g f).listing? = d.listing? :=
  funext <| Store.map_get?_modify fun _ _ => rfl

@[simp] theorem definitions?_mapEdges : (d.mapEdges g f).definitions? = d.definitions? :=
  funext <| Store.map_get?_modify fun _ _ => rfl

@[simp] theorem variables?_mapEdges : (d.mapEdges g f).variables? = d.variables? :=
  funext <| Store.map_get?_modify fun _ _ => rfl

theorem edges?_mapEdges :
    (d.mapEdges g f).edges? h = if h = g then (d.edges? h).map f else d.edges? h := by
  rw [edges?, graph?, mapEdges, Store.get?_modify]
  split
  · rw [edges?, graph?, Option.map_map, Option.map_map]; rfl
  · rfl

end

section
variable (f : List PortDefinition → List PortDefinition)

@[simp] theorem keys_mapDefinitions : (d.mapDefinitions g f).graphs.keys = d.graphs.keys :=
  Store.keys_modify ..

@[simp] theorem place?_mapDefinitions : (d.mapDefinitions g f).place? = d.place? := rfl

@[simp] theorem ports?_mapDefinitions : (d.mapDefinitions g f).ports? = d.ports? := rfl

@[simp] theorem keys?_mapDefinitions : (d.mapDefinitions g f).keys? = d.keys? := rfl

@[simp] theorem listing?_mapDefinitions : (d.mapDefinitions g f).listing? = d.listing? :=
  funext <| Store.map_get?_modify fun _ _ => rfl

@[simp] theorem edges?_mapDefinitions : (d.mapDefinitions g f).edges? = d.edges? :=
  funext <| Store.map_get?_modify fun _ _ => rfl

@[simp] theorem variables?_mapDefinitions : (d.mapDefinitions g f).variables? = d.variables? :=
  funext <| Store.map_get?_modify fun _ _ => rfl

theorem definitions?_mapDefinitions : (d.mapDefinitions g f).definitions? h =
    if h = g then (d.definitions? h).map f else d.definitions? h := by
  rw [definitions?, graph?, mapDefinitions, Store.get?_modify]
  split
  · rw [definitions?, graph?, Option.map_map, Option.map_map]; rfl
  · rfl

end

section
variable (f : Declarations → Declarations)

@[simp] theorem place?_mapDeclarations : (d.mapDeclarations g f).place? = d.place? := rfl

@[simp] theorem ports?_mapDeclarations : (d.mapDeclarations g f).ports? = d.ports? := rfl

@[simp] theorem keys?_mapDeclarations : (d.mapDeclarations g f).keys? = d.keys? := rfl

@[simp] theorem listing?_mapDeclarations : (d.mapDeclarations g f).listing? = d.listing? :=
  funext <| Store.map_get?_modify fun _ _ => rfl

@[simp] theorem edges?_mapDeclarations : (d.mapDeclarations g f).edges? = d.edges? :=
  funext <| Store.map_get?_modify fun _ _ => rfl

@[simp] theorem definitions?_mapDeclarations :
    (d.mapDeclarations g f).definitions? = d.definitions? :=
  funext <| Store.map_get?_modify fun _ _ => rfl

theorem variables?_mapDeclarations : (d.mapDeclarations g f).variables? h =
    if h = g then (d.variables? h).map f else d.variables? h := by
  rw [variables?, graph?, mapDeclarations, Store.get?_modify]
  split
  · rw [variables?, graph?, Option.map_map, Option.map_map]; rfl
  · rfl

end

end

/-! ## Changes that do nothing -/

section
variable {d : Document} {n : NodeId} {g : GraphId}

theorem mapEdges_eq_self (hd : d.graphs.Distinct) {f : List Edge → List Edge}
    (h : ∀ es, d.edges? g = some es → f es = es) : d.mapEdges g f = d := by
  rw [mapEdges, Store.modify_eq_self hd fun x hx => ?_]
  rw [h x.edges (edges?_of_graph? hx)]

theorem mapDefinitions_eq_self (hd : d.graphs.Distinct)
    {f : List PortDefinition → List PortDefinition}
    (h : ∀ ds, d.definitions? g = some ds → f ds = ds) : d.mapDefinitions g f = d := by
  rw [mapDefinitions, Store.modify_eq_self hd fun x hx => ?_]
  rw [h x.definitions (definitions?_of_graph? hx)]

theorem mapDeclarations_eq_self (hd : d.graphs.Distinct) {f : Declarations → Declarations}
    (h : ∀ vs, d.variables? g = some vs → f vs = vs) : d.mapDeclarations g f = d := by
  rw [mapDeclarations, Store.modify_eq_self hd fun x hx => ?_]
  rw [h x.declarations (congrArg (Option.map _) hx)]

end

end GraphDraft.Document
