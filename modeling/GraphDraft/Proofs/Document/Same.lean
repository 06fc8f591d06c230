import GraphDraft.Journal
import GraphDraft.Proofs.Document.Removal

/-!
# Documents with the same content

`Same d e` says that two documents differ in their selections, counters and revisions only. Undoing
a change depends on the content alone (`Same.revert`), and so does rolling back a journal
(`Same.rollback`).
-/

namespace GraphDraft

namespace Document

/-- Documents that differ in their selections, counters and revisions only. -/
structure Same (d e : Document) : Prop where
  graphs : d.graphs = e.graphs
  nodes : d.nodes = e.nodes
  pointer : d.pointer = e.pointer
  objectVariables : d.objectVariables = e.objectVariables
  sceneVariables : d.sceneVariables = e.sceneVariables
  applicationVariables : d.applicationVariables = e.applicationVariables
  savedVariables : d.savedVariables = e.savedVariables

namespace Same

variable {d e f : Document}

theorem refl (d : Document) : d.Same d := ⟨rfl, rfl, rfl, rfl, rfl, rfl, rfl⟩

theorem symm (h : d.Same e) : e.Same d :=
  ⟨h.graphs.symm, h.nodes.symm, h.pointer.symm, h.objectVariables.symm, h.sceneVariables.symm,
    h.applicationVariables.symm, h.savedVariables.symm⟩

theorem trans (h : d.Same e) (k : e.Same f) : d.Same f :=
  ⟨h.graphs.trans k.graphs, h.nodes.trans k.nodes, h.pointer.trans k.pointer,
    h.objectVariables.trans k.objectVariables, h.sceneVariables.trans k.sceneVariables,
    h.applicationVariables.trans k.applicationVariables, h.savedVariables.trans k.savedVariables⟩

theorem touch (h : d.Same e) : d.touch.Same e.touch := { h with }

/-- The selection, the counters and the revision are all that is left to compare. -/
theorem eq (h : d.Same e) (hselection : d.selection = e.selection)
    (hnode : d.nextNode = e.nextNode) (hgraph : d.nextGraph = e.nextGraph)
    (hdefinition : d.nextDefinition = e.nextDefinition) (hrevision : d.revision = e.revision) :
    d = e := by
  obtain ⟨hg, hn, hp, ho, hs, ha, hv⟩ := h
  cases d
  cases e
  simp_all

theorem node? (h : d.Same e) : d.node? = e.node? := by
  funext n
  rw [Document.node?, h.nodes, Document.node?]

theorem graph? (h : d.Same e) : d.graph? = e.graph? := by
  funext g
  rw [Document.graph?, h.graphs, Document.graph?]

section
variable (h : d.Same e)
include h

theorem mapPorts (n : NodeId) (p : Ports → Ports) : (d.mapPorts n p).Same (e.mapPorts n p) :=
  { h with nodes := by rw [Document.mapPorts, h.nodes, Document.mapPorts] }

theorem mapEdges (g : GraphId) (p : List Edge → List Edge) :
    (d.mapEdges g p).Same (e.mapEdges g p) :=
  { h with graphs := by rw [Document.mapEdges, h.graphs, Document.mapEdges] }

theorem mapDefinitions (g : GraphId) (p : List PortDefinition → List PortDefinition) :
    (d.mapDefinitions g p).Same (e.mapDefinitions g p) :=
  { h with graphs := by rw [Document.mapDefinitions, h.graphs, Document.mapDefinitions] }

theorem mapDeclarations (g : GraphId) (p : Declarations → Declarations) :
    (d.mapDeclarations g p).Same (e.mapDeclarations g p) :=
  { h with graphs := by rw [Document.mapDeclarations, h.graphs, Document.mapDeclarations] }

theorem modifyVariables (scope : Scope) (g : GraphId) (p : Declarations → Declarations) :
    (d.modifyVariables scope g p).Same (e.modifyVariables scope g p) := by
  cases scope with
  | graph => exact (h.mapDeclarations g p).touch
  | object => exact { h with objectVariables := congrArg p h.objectVariables }
  | scene => exact { h with sceneVariables := congrArg p h.sceneVariables }
  | application => exact { h with applicationVariables := congrArg p h.applicationVariables }
  | saved => exact { h with savedVariables := congrArg p h.savedVariables }

theorem setDefault (n : NodeId) (key : String) (v : Value) :
    (d.setDefault n key v).Same (e.setDefault n key v) := by
  have hv : d.heldValue? n key = e.heldValue? n key := by
    rw [heldValue?, h.node?, heldValue?]
  rw [Document.setDefault, Document.setDefault, hv]
  split
  · exact (h.mapPorts n _).touch
  · exact h

theorem disconnect (c : Edge) : (d.disconnect c).Same (e.disconnect c) := by
  have he : d.hasEdge c = e.hasEdge c := by
    rw [hasEdge, edgesAround, h.node?, h.graph?, hasEdge, edgesAround]
  rw [Document.disconnect, Document.disconnect, h.node?, he]
  split
  · split
    · exact (h.mapEdges _ _).touch
    · exact h
  · exact h

theorem derivePorts (g : GraphId) : (d.derivePorts g).Same (e.derivePorts g) := by
  rw [Document.derivePorts, Document.derivePorts, h.graph?, h.node?]
  split
  · exact h
  · split
    · exact h
    · exact (h.mapPorts _ _).mapEdges _ _

theorem editDefinitions (g : GraphId) (p : List PortDefinition → List PortDefinition) :
    (d.editDefinitions g p).Same (e.editDefinitions g p) :=
  ((h.mapDefinitions g p).derivePorts g).touch

theorem removeDefinition (g : GraphId) (id : DefinitionId) :
    (d.removeDefinition g id).Same (e.removeDefinition g id) := by
  have hid : d.hasDefinition g id = e.hasDefinition g id := by
    rw [hasDefinition, h.graph?, hasDefinition]
  rw [Document.removeDefinition, Document.removeDefinition, hid]
  split
  · exact h.editDefinitions g _
  · exact h

theorem removing (gone cut : NodeId → Bool) : (d.removing gone cut).Same (e.removing gone cut) :=
  { h with
    nodes := by rw [Document.removing, h.nodes, Document.removing]
    graphs := by rw [Document.removing, h.graphs, Document.removing] }

omit h in
theorem revised (d : Document) (r : Nat) : (d.revised r).Same d := { refl d with }

theorem removeNode (hd : d.Valid) (he : e.Valid) (n : NodeId) :
    (d.removeNode n).Same (e.removeNode n) := by
  obtain ⟨r, hr⟩ := removeNode_eq hd n
  obtain ⟨s, hs⟩ := removeNode_eq he n
  have hin : d.inside n = e.inside n := by
    rw [inside, (views_of_nodes h.nodes).1, inside]
  rw [hr, hs, hin]
  exact (((revised d r).trans h).trans (revised e s).symm).removing _ _

end

end Same

end Document

open Document

variable {d e : Document}

/-! ## Undoing changes -/

theorem Document.Valid.revert (h : d.Valid) (c : Change) : (c.revert d).Valid := by
  cases c with
  | nodeCreated n => exact h.removeNode n
  | portDefined g id => exact h.removeDefinition g id
  | variableDeclared scope g name wasDefined =>
    rw [Change.revert]
    split
    · exact h
    · exact h.modifyVariables scope g fun _ hv => hv.erase name
  | defaultSet n key previous => exact h.setDefault n key previous
  | edgeConnected c => exact h.disconnect c

theorem Document.Same.revert (h : d.Same e) (hd : d.Valid) (he : e.Valid) (c : Change) :
    (c.revert d).Same (c.revert e) := by
  cases c with
  | nodeCreated n => exact h.removeNode hd he n
  | portDefined g id => exact h.removeDefinition g id
  | variableDeclared scope g name wasDefined =>
    rw [Change.revert, Change.revert]
    split
    · exact h
    · exact h.modifyVariables scope g _
  | defaultSet n key previous => exact h.setDefault n key previous
  | edgeConnected c => exact h.disconnect c

theorem Document.Valid.rollback (h : d.Valid) (j : Journal) : (j.rollback d).Valid := by
  induction j with
  | nil => exact h
  | cons c j ih => exact ih.revert c

theorem Document.Same.rollback (h : d.Same e) (hd : d.Valid) (he : e.Valid) (j : Journal) :
    (j.rollback d).Same (j.rollback e) := by
  induction j with
  | nil => exact h
  | cons c j ih => exact ih.revert (hd.rollback j) (he.rollback j) c

end GraphDraft
