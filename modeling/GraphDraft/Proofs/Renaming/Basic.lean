import GraphDraft.Document.Nodes
import Mathlib.Data.List.Basic
import Mathlib.Logic.Function.Basic

/-!
# Renaming identities

A renaming gives nodes, graphs and definitions other identities and moves the counters on
(`Document.rename`). Nothing in a document depends on what its identities are: every operation of
this module gives, on the renamed document, what it gives on the document, renamed. New identities
are handed out from the counters, so adding nodes and definitions is in step with a renaming that
moves all identities from the counters on alike (`Renaming.Tracks`).
-/

namespace GraphDraft

/-! ## Stores under other keys -/

namespace Store

variable {κ α : Type} [DecidableEq κ]

/-- The store with other keys and values. -/
def rename (s : Store κ α) (f : κ → κ) (g : α → α) : Store κ α :=
  ⟨s.entries.map fun e => (f e.1, g e.2)⟩

section
variable (s : Store κ α) {f : κ → κ} (hf : f.Injective) (g : α → α) (k : κ)
include hf

theorem get?_rename : (s.rename f g).get? (f k) = (s.get? k).map g := by
  obtain ⟨es⟩ := s
  simp only [get?, rename]
  induction es with
  | nil => rfl
  | cons e es ih => by_cases h : e.1 = k <;> simp_all [hf.eq_iff]

theorem contains_rename : (s.rename f g).contains (f k) = s.contains k := by
  rw [contains, get?_rename s hf, contains, Option.isSome_map]

theorem put_rename (a : α) : (s.rename f g).put (f k) (g a) = (s.put k a).rename f g := by
  obtain ⟨es⟩ := s
  simp only [put, rename]
  congr 1
  induction es with
  | nil => rfl
  | cons e es ih => by_cases h : e.1 = k <;> simp_all [putEntry, hf.eq_iff]

theorem modify_rename {m m' : α → α} (hm : ∀ a, m' (g a) = g (m a)) :
    (s.rename f g).modify (f k) m' = (s.modify k m).rename f g := by
  obtain ⟨es⟩ := s
  simp only [modify, rename, List.map_map]
  congr 1
  refine List.map_congr_left fun e _ => ?_
  by_cases h : e.1 = k <;> simp [h, hf.eq_iff, hm]

end

omit [DecidableEq κ] in
theorem size_rename (s : Store κ α) (f : κ → κ) (g : α → α) : (s.rename f g).size = s.size :=
  List.length_map ..

end Store

/-! ## Renamings -/

/-- Other identities, and how far the counters move. -/
structure Renaming where
  node : NodeId → NodeId
  graph : GraphId → GraphId
  definition : DefinitionId → DefinitionId
  node_injective : node.Injective
  graph_injective : graph.Injective
  graph_root : graph .root = .root
  nodeShift : Nat
  graphShift : Nat
  definitionShift : Nat
  revisionShift : Nat

def Edge.rename (ρ : Renaming) (e : Edge) : Edge :=
  { e with source := ρ.node e.source, target := ρ.node e.target }

def PortDefinition.rename (ρ : Renaming) (p : PortDefinition) : PortDefinition :=
  { p with id := ρ.definition p.id }

def Node.rename (ρ : Renaming) (x : Node) : Node :=
  { x with graph := ρ.graph x.graph, body := x.body.map ρ.graph }

def Graph.rename (ρ : Renaming) (x : Graph) : Graph :=
  { x with
    owner := x.owner.map ρ.node
    nodes := x.nodes.map ρ.node
    edges := x.edges.map (·.rename ρ)
    definitions := x.definitions.map (·.rename ρ) }

def Document.rename (ρ : Renaming) (d : Document) : Document where
  graphs := d.graphs.rename ρ.graph (·.rename ρ)
  nodes := d.nodes.rename ρ.node (·.rename ρ)
  selection := d.selection.map ρ.node
  pointer := d.pointer
  objectVariables := d.objectVariables
  sceneVariables := d.sceneVariables
  applicationVariables := d.applicationVariables
  savedVariables := d.savedVariables
  nextNode := ρ.nodeShift + d.nextNode
  nextGraph := ρ.graphShift + d.nextGraph
  nextDefinition := ρ.definitionShift + d.nextDefinition
  revision := ρ.revisionShift + d.revision

/-- The identities that are not in use yet move with the counters. -/
structure Renaming.Tracks (ρ : Renaming) (d : Document) : Prop where
  node : ∀ i, d.nextNode ≤ i → ρ.node ⟨i⟩ = ⟨ρ.nodeShift + i⟩
  graph : ∀ i, d.nextGraph ≤ i → ρ.graph ⟨i⟩ = ⟨ρ.graphShift + i⟩
  definition : ∀ i, d.nextDefinition ≤ i → ρ.definition ⟨i⟩ = ⟨ρ.definitionShift + i⟩

/-! ## The identity -/

/-- The renaming that changes nothing. -/
def Renaming.identity : Renaming where
  node := id
  graph := id
  definition := id
  node_injective := Function.injective_id
  graph_injective := Function.injective_id
  graph_root := rfl
  nodeShift := 0
  graphShift := 0
  definitionShift := 0
  revisionShift := 0

/-- The renaming that changes no identity and moves the counters and the revision on. -/
def Renaming.onward (nodes graphs definitions revisions : Nat) : Renaming :=
  { Renaming.identity with
    nodeShift := nodes
    graphShift := graphs
    definitionShift := definitions
    revisionShift := revisions }

/-- Revisions play no part in which identities are handed out. -/
theorem Renaming.Tracks.onward (r : Nat) (d : Document) :
    (Renaming.onward 0 0 0 r).Tracks d where
  node i _ := congrArg NodeId.mk (Nat.zero_add i).symm
  graph i _ := congrArg GraphId.mk (Nat.zero_add i).symm
  definition i _ := congrArg DefinitionId.mk (Nat.zero_add i).symm

theorem Renaming.Tracks.identity (d : Document) : Renaming.identity.Tracks d :=
  .onward 0 d

theorem Store.rename_id {κ α : Type} (s : Store κ α) {g : α → α} (hg : ∀ a, g a = a) :
    s.rename id g = s := by
  obtain ⟨es⟩ := s
  have hid : (fun e : κ × α => (id e.1, g e.2)) = id := funext fun e => by rw [hg]; rfl
  rw [rename, hid, List.map_id]

section
variable (n g i r : Nat)

theorem Node.rename_onward (x : Node) : x.rename (.onward n g i r) = x := by
  simp [Node.rename, Renaming.onward, Renaming.identity]

theorem Graph.rename_onward (x : Graph) : x.rename (.onward n g i r) = x := by
  have hedges : x.edges.map (·.rename (.onward n g i r)) = x.edges := List.map_id x.edges
  have hdefs : x.definitions.map (·.rename (.onward n g i r)) = x.definitions :=
    List.map_id x.definitions
  rw [Graph.rename, hedges, hdefs]
  simp [Renaming.onward, Renaming.identity]

end

namespace Document

theorem rename_onward (n g i r : Nat) (d : Document) : d.rename (.onward n g i r) =
    { d with
      nextNode := n + d.nextNode, nextGraph := g + d.nextGraph
      nextDefinition := i + d.nextDefinition, revision := r + d.revision } := by
  have hgraphs : d.graphs.rename id (·.rename (.onward n g i r)) = d.graphs :=
    d.graphs.rename_id (Graph.rename_onward n g i r)
  have hnodes : d.nodes.rename id (·.rename (.onward n g i r)) = d.nodes :=
    d.nodes.rename_id (Node.rename_onward n g i r)
  have hselection : d.selection.map id = d.selection := List.map_id _
  simp only [rename, Renaming.onward, Renaming.identity]
  simp only [Renaming.onward, Renaming.identity] at hgraphs hnodes
  rw [hgraphs, hnodes, hselection]

theorem rename_identity (d : Document) : d.rename .identity = d := by
  rw [show Renaming.identity = .onward 0 0 0 0 from rfl, rename_onward]
  simp only [Nat.zero_add]

variable (ρ : Renaming) (d : Document)

/-! ## Reading -/

theorem node?_rename (n : NodeId) : (d.rename ρ).node? (ρ.node n) = (d.node? n).map (·.rename ρ) :=
  d.nodes.get?_rename ρ.node_injective _ n

theorem graph?_rename (g : GraphId) :
    (d.rename ρ).graph? (ρ.graph g) = (d.graph? g).map (·.rename ρ) :=
  d.graphs.get?_rename ρ.graph_injective _ g

theorem contains_node_rename (n : NodeId) :
    (d.rename ρ).nodes.contains (ρ.node n) = d.nodes.contains n :=
  d.nodes.contains_rename ρ.node_injective _ n

theorem contains_graph_rename (g : GraphId) :
    (d.rename ρ).graphs.contains (ρ.graph g) = d.graphs.contains g :=
  d.graphs.contains_rename ρ.graph_injective _ g

theorem nodesIn_rename (g : GraphId) : (d.rename ρ).nodesIn (ρ.graph g) =
    (d.nodesIn g).map fun x => (ρ.node x.1, x.2.rename ρ) := by
  rw [nodesIn, graph?_rename, nodesIn]
  cases d.graph? g with
  | none => rfl
  | some y =>
    simp only [Option.map_some, Option.getD_some, Graph.rename, List.filterMap_map,
      List.map_filterMap]
    congr
    funext n
    rw [Function.comp, node?_rename]
    cases d.node? n <;> rfl

theorem anchor?_rename : (d.rename ρ).anchor? =
    d.anchor?.map fun x => (ρ.node x.1, x.2.rename ρ) := by
  simp only [anchor?, rename, List.head?_map]
  cases d.selection.head? with
  | none => rfl
  | some n =>
    have hn := node?_rename ρ d n
    simp only [rename] at hn
    simp only [Option.map_some, Option.bind_some, hn]
    cases d.node? n <;> rfl

/-! ## Changing one part -/

variable {ρ d}

theorem touch_rename : (d.rename ρ).touch = d.touch.rename ρ := rfl

theorem mapPosition_rename (n : NodeId) (f : Point → Point) :
    (d.rename ρ).mapPosition (ρ.node n) f = (d.mapPosition n f).rename ρ := by
  simp only [mapPosition, rename, Document.mk.injEq, and_true, true_and]
  exact Store.modify_rename _ ρ.node_injective _ n fun _ => rfl

theorem mapPorts_rename (n : NodeId) (f : Ports → Ports) :
    (d.rename ρ).mapPorts (ρ.node n) f = (d.mapPorts n f).rename ρ := by
  simp only [mapPorts, rename, Document.mk.injEq, and_true, true_and]
  exact Store.modify_rename _ ρ.node_injective _ n fun _ => rfl

theorem mapListed_rename (g : GraphId) {f f' : List NodeId → List NodeId}
    (hf : ∀ ns, f' (ns.map ρ.node) = (f ns).map ρ.node) :
    (d.rename ρ).mapListed (ρ.graph g) f' = (d.mapListed g f).rename ρ := by
  simp only [mapListed, rename, Document.mk.injEq, and_true]
  refine Store.modify_rename _ ρ.graph_injective _ g fun x => ?_
  simp [Graph.rename, hf]

theorem mapEdges_rename (g : GraphId) {f f' : List Edge → List Edge}
    (hf : ∀ es, f' (es.map (·.rename ρ)) = (f es).map (·.rename ρ)) :
    (d.rename ρ).mapEdges (ρ.graph g) f' = (d.mapEdges g f).rename ρ := by
  simp only [mapEdges, rename, Document.mk.injEq, and_true]
  refine Store.modify_rename _ ρ.graph_injective _ g fun x => ?_
  simp [Graph.rename, hf]

theorem mapDefinitions_rename (g : GraphId) {f f' : List PortDefinition → List PortDefinition}
    (hf : ∀ ds, f' (ds.map (·.rename ρ)) = (f ds).map (·.rename ρ)) :
    (d.rename ρ).mapDefinitions (ρ.graph g) f' = (d.mapDefinitions g f).rename ρ := by
  simp only [mapDefinitions, rename, Document.mk.injEq, and_true]
  refine Store.modify_rename _ ρ.graph_injective _ g fun x => ?_
  simp [Graph.rename, hf]

theorem mapDeclarations_rename (g : GraphId) (f : Declarations → Declarations) :
    (d.rename ρ).mapDeclarations (ρ.graph g) f = (d.mapDeclarations g f).rename ρ := by
  simp only [mapDeclarations, rename, Document.mk.injEq, and_true]
  exact Store.modify_rename _ ρ.graph_injective _ g fun _ => rfl

end Document

end GraphDraft
