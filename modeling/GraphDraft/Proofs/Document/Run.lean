import GraphDraft.Proofs.Document.Removal
import Mathlib.Data.List.Intervals
import Mathlib.Logic.Relation

/-!
# Runs of operations

`Operation` is what can be done to a document, and a document is `Reachable` if operations lead to
it from an empty one. Every operation keeps documents valid (`Valid.run`), and the identities that
it hands out are those from the old counters up to the new ones (`Valid.spans_run`). Hence so are
the identities that a whole run hands out (`Valid.spans_runAll`).
-/

namespace GraphDraft

/-- A change of the declarations of one scope. -/
inductive VariableEdit where
  | set (name : String) (value : Value)
  | remove (name : String)

def VariableEdit.apply (vs : Declarations) : VariableEdit → Declarations
  | set name value => vs.put name value
  | remove name => vs.erase name

/-- What can be done to a document. -/
inductive Operation where
  | select (node : Option NodeId)
  | setSelection (nodes : List NodeId)
  | extendSelection (node : NodeId)
  | selectGraph (graph : GraphId)
  | setPointer (position : Point)
  | setPosition (node : NodeId) (position : Point)
  | addNode (graph : GraphId) (blueprint : Blueprint) (position : Point)
  | removeNode (node : NodeId)
  | connect (edge : Edge)
  | disconnect (edge : Edge)
  | setDefault (node : NodeId) (key : String) (value : Value)
  | addDefinition (graph : GraphId) (plan : PortPlan)
  | removeDefinition (graph : GraphId) (definition : DefinitionId)
  | definitionsChanged (graph : GraphId)
  | editVariables (scope : Scope) (graph : GraphId) (edits : List VariableEdit)

/-- Identities that have been handed out, in order. -/
structure Issued where
  nodes : List NodeId := []
  graphs : List GraphId := []
  definitions : List DefinitionId := []

def Issued.append (i j : Issued) : Issued where
  nodes := i.nodes ++ j.nodes
  graphs := i.graphs ++ j.graphs
  definitions := i.definitions ++ j.definitions

namespace Operation

/-- What is left of a document after an operation. -/
def run (o : Operation) (d : Document) : Document :=
  match o with
  | select n => d.select n
  | setSelection ns => d.setSelection ns
  | extendSelection n => d.extendSelection n
  | selectGraph g => d.selectGraph g
  | setPointer p => d.setPointer p
  | setPosition n p => d.setPosition n p
  | addNode g b p => ((d.addNode g b p).map (·.2)).getD d
  | removeNode n => d.removeNode n
  | connect e => d.connect e
  | disconnect e => d.disconnect e
  | setDefault n key v => d.setDefault n key v
  | addDefinition g p => ((d.addDefinition g p).map (·.2)).getD d
  | removeDefinition g id => d.removeDefinition g id
  | definitionsChanged g => d.definitionsChanged g
  | editVariables scope g es => d.modifyVariables scope g (es.foldl VariableEdit.apply ·)

/-- The identities that an operation hands out: those of the node that it adds, of its body and of
the definitions of the body, or that of the definition that it adds. -/
def issued (o : Operation) (d : Document) : Issued :=
  match o with
  | addNode g b p =>
    match d.addNode g b p with
    | some (n, e) =>
      let body := (e.node? n).bind (·.body)
      { nodes := [n]
        graphs := body.toList
        definitions := ((body.bind e.definitions?).getD []).map (·.id) }
    | none => {}
  | addDefinition g p => { definitions := ((d.addDefinition g p).map (·.1)).toList }
  | _ => {}

/-- Runs operations in order. -/
def runAll : List Operation → Document → Document
  | [], d => d
  | o :: os, d => runAll os (o.run d)

/-- The identities that operations hand out when they are run in order. -/
def issuedAll : List Operation → Document → Issued
  | [], _ => {}
  | o :: os, d => (o.issued d).append (issuedAll os (o.run d))

end Operation

/-- Some operations lead to the document from an empty one. -/
def Document.Reachable (d : Document) : Prop :=
  ∃ title os, d = Operation.runAll os (.empty title)

variable {d : Document}

/-! ## Validity -/

theorem distinct_applyEdits {vs : Declarations} (h : vs.Distinct) (es : List VariableEdit) :
    (es.foldl VariableEdit.apply vs).Distinct := by
  induction es generalizing vs with
  | nil => exact h
  | cons e es ih =>
    rw [List.foldl_cons]
    cases e with
    | set name v => exact ih (h.put name v)
    | remove name => exact ih (h.erase name)

namespace Document

theorem Valid.run (h : d.Valid) (o : Operation) : (o.run d).Valid := by
  cases o with
  | select n => exact h.setSelection _
  | setSelection ns => exact h.setSelection ns
  | extendSelection n => exact h.extendSelection n
  | selectGraph g => exact h.setSelection _
  | setPointer p => exact h.setPointer p
  | setPosition n p => exact h.setPosition n p
  | addNode g b p =>
    rw [Operation.run]
    cases ha : d.addNode g b p with
    | none => exact h
    | some r =>
      obtain ⟨n, e⟩ := r
      exact (h.addNode ha).2.2.2
  | removeNode n => exact h.removeNode n
  | connect e => exact h.connect e
  | disconnect e => exact h.disconnect e
  | setDefault n key v => exact h.setDefault n key v
  | addDefinition g p =>
    rw [Operation.run]
    cases ha : d.addDefinition g p with
    | none => exact h
    | some r =>
      obtain ⟨id, e⟩ := r
      exact h.addDefinition ha
  | removeDefinition g id => exact h.removeDefinition g id
  | definitionsChanged g => exact h.definitionsChanged g
  | editVariables scope g es =>
    exact h.modifyVariables scope g fun _ hv => distinct_applyEdits hv es

theorem Valid.runAll (h : d.Valid) (os : List Operation) : (Operation.runAll os d).Valid := by
  induction os generalizing d with
  | nil => exact h
  | cons o os ih => exact ih (h.run o)

theorem Reachable.valid (h : d.Reachable) : d.Valid := by
  obtain ⟨title, os, rfl⟩ := h
  exact (valid_empty title).runAll os

/-! ## Identities -/

/-- The numbers of the identities that come next. -/
def next (d : Document) : Nat × Nat × Nat := (d.nextNode, d.nextGraph, d.nextDefinition)

theorem next_extendSelection (d : Document) (n : NodeId) : (d.extendSelection n).next = d.next := by
  rw [extendSelection]
  split <;> rfl

theorem next_setPosition (d : Document) (n : NodeId) (p : Point) :
    (d.setPosition n p).next = d.next := by
  rw [setPosition]
  split <;> rfl

theorem next_removeNode (h : d.Valid) (n : NodeId) : (d.removeNode n).next = d.next := by
  obtain ⟨r, hr⟩ := removeNode_eq h n
  rw [hr]
  rfl

theorem next_addEdge (d : Document) (e : Edge) : (d.addEdge e).next = d.next := by
  rw [addEdge]
  split <;> rfl

theorem next_connect (d : Document) (e : Edge) : (d.connect e).next = d.next := by
  rw [connect]
  split
  · exact next_addEdge d e
  · rfl

theorem next_disconnect (d : Document) (e : Edge) : (d.disconnect e).next = d.next := by
  rw [disconnect]
  split
  · split <;> rfl
  · rfl

theorem next_setDefault (d : Document) (n : NodeId) (key : String) (v : Value) :
    (d.setDefault n key v).next = d.next := by
  rw [setDefault]
  split <;> rfl

theorem next_definitionsChanged (d : Document) (g : GraphId) :
    (d.definitionsChanged g).next = d.next := by
  rw [definitionsChanged, derivePorts]
  split
  · rfl
  · split <;> rfl

theorem next_editDefinitions (d : Document) (g : GraphId)
    (f : List PortDefinition → List PortDefinition) : (d.editDefinitions g f).next = d.next :=
  next_definitionsChanged ..

theorem next_removeDefinition (d : Document) (g : GraphId) (id : DefinitionId) :
    (d.removeDefinition g id).next = d.next := by
  rw [removeDefinition]
  split
  · exact next_editDefinitions ..
  · rfl

theorem next_modifyVariables (d : Document) (scope : Scope) (g : GraphId)
    (f : Declarations → Declarations) : (d.modifyVariables scope g f).next = d.next := by
  cases scope <;> rfl

theorem map_id_definitionsFrom : ∀ (k : Nat) (ps : List PortPlan),
    (definitionsFrom k ps).map (·.id) = (List.Ico k (k + ps.length)).map DefinitionId.mk
  | k, [] => by simp [definitionsFrom]
  | k, p :: ps => by
    rw [definitionsFrom, List.map_cons, map_id_definitionsFrom (k + 1) ps, List.length_cons,
      List.Ico.eq_cons (show k < k + (ps.length + 1) by omega), List.map_cons,
      show k + 1 + ps.length = k + (ps.length + 1) by omega]
    rfl

end Document

/-- The identities handed out on the way from one document to another are those from the counters of
the one up to the counters of the other, in order. -/
structure Issued.Spans (i : Issued) (d e : Document) : Prop where
  node_le : d.nextNode ≤ e.nextNode
  graph_le : d.nextGraph ≤ e.nextGraph
  definition_le : d.nextDefinition ≤ e.nextDefinition
  nodes : i.nodes = (List.Ico d.nextNode e.nextNode).map NodeId.mk
  graphs : i.graphs = (List.Ico d.nextGraph e.nextGraph).map GraphId.mk
  definitions : i.definitions = (List.Ico d.nextDefinition e.nextDefinition).map DefinitionId.mk

namespace Issued.Spans

theorem congr {i : Issued} {e f : Document} (h : i.Spans d e) (hf : f.next = e.next) :
    i.Spans d f := by
  simp only [Document.next, Prod.mk.injEq] at hf
  obtain ⟨hn, hg, hd⟩ := hf
  exact
    { node_le := hn ▸ h.node_le, graph_le := hg ▸ h.graph_le
      definition_le := hd ▸ h.definition_le, nodes := hn ▸ h.nodes, graphs := hg ▸ h.graphs
      definitions := hd ▸ h.definitions }

theorem of_next_eq {e : Document} (h : e.next = d.next) : Spans {} d e :=
  congr ⟨Nat.le_refl _, Nat.le_refl _, Nat.le_refl _, by simp, by simp, by simp⟩ h

theorem append {i j : Issued} {e f : Document} (hi : i.Spans d e) (hj : j.Spans e f) :
    (i.append j).Spans d f where
  node_le := hi.node_le.trans hj.node_le
  graph_le := hi.graph_le.trans hj.graph_le
  definition_le := hi.definition_le.trans hj.definition_le
  nodes := by
    rw [Issued.append, hi.nodes, hj.nodes, ← List.map_append,
      List.Ico.append_consecutive hi.node_le hj.node_le]
  graphs := by
    rw [Issued.append, hi.graphs, hj.graphs, ← List.map_append,
      List.Ico.append_consecutive hi.graph_le hj.graph_le]
  definitions := by
    rw [Issued.append, hi.definitions, hj.definitions, ← List.map_append,
      List.Ico.append_consecutive hi.definition_le hj.definition_le]

end Issued.Spans

namespace Document

theorem Valid.spans_addNode (h : d.Valid) (g : GraphId) (b : Blueprint) (p : Point) :
    ((Operation.addNode g b p).issued d).Spans d ((Operation.addNode g b p).run d) := by
  by_cases hg : d.graphs.contains g = true
  · simp only [Operation.issued, Operation.run, addNode_eq h hg, Option.map_some, Option.getD_some]
    have hbody : ((d.grown g b p).node? ⟨d.nextNode⟩).bind (·.body) =
        b.body.map fun _ => ⟨d.nextGraph⟩ := by
      rw [node?_grown, if_pos rfl]
      rfl
    rw [hbody]
    have hle : d.nextGraph ≤ (d.grown g b p).nextGraph := Nat.le_add_right ..
    have hle' : d.nextDefinition ≤ (d.grown g b p).nextDefinition := Nat.le_add_right ..
    refine ⟨Nat.le_succ _, hle, hle', ?_, ?_, ?_⟩
    · exact (congrArg (List.map NodeId.mk) List.Ico.succ_singleton).symm
    · cases hb : b.body with
      | none => simp [Document.grown, hb]
      | some plan => simp [Document.grown, hb]
    · cases hb : b.body with
      | none => simp [Document.grown, hb]
      | some plan =>
        have hds := definitions?_grown h hg b p ⟨d.nextGraph⟩
        rw [if_pos rfl, hb, Option.map_some] at hds
        rw [Option.map_some, Option.bind_some, hds, Option.getD_some, map_id_definitionsFrom]
        simp [Document.grown, hb]
  · have ha : d.addNode g b p = none := by rw [Document.addNode, if_neg hg]
    simp only [Operation.issued, Operation.run, ha]
    exact .of_next_eq rfl

theorem spans_addDefinition (d : Document) (g : GraphId) (p : PortPlan) :
    ((Operation.addDefinition g p).issued d).Spans d ((Operation.addDefinition g p).run d) := by
  by_cases hg : d.graphs.contains g = true
  · simp only [Operation.issued, Operation.run, addDefinition_of_contains hg p, Option.map_some,
      Option.getD_some]
    refine .congr ?_ (next_editDefinitions ..)
    exact ⟨Nat.le_refl _, Nat.le_refl _, Nat.le_succ _, by simp, by simp, by simp⟩
  · have ha : d.addDefinition g p = none := by rw [addDefinition, if_neg hg]
    simp only [Operation.issued, Operation.run, ha]
    exact .of_next_eq rfl

theorem Valid.spans_run (h : d.Valid) (o : Operation) : (o.issued d).Spans d (o.run d) := by
  cases o with
  | select n => exact .of_next_eq rfl
  | setSelection ns => exact .of_next_eq rfl
  | extendSelection n => exact .of_next_eq (next_extendSelection d n)
  | selectGraph g => exact .of_next_eq rfl
  | setPointer p => exact .of_next_eq rfl
  | setPosition n p => exact .of_next_eq (next_setPosition d n p)
  | addNode g b p => exact h.spans_addNode g b p
  | removeNode n => exact .of_next_eq (next_removeNode h n)
  | connect e => exact .of_next_eq (next_connect d e)
  | disconnect e => exact .of_next_eq (next_disconnect d e)
  | setDefault n key v => exact .of_next_eq (next_setDefault d n key v)
  | addDefinition g p => exact spans_addDefinition d g p
  | removeDefinition g id => exact .of_next_eq (next_removeDefinition d g id)
  | definitionsChanged g => exact .of_next_eq (next_definitionsChanged d g)
  | editVariables scope g es => exact .of_next_eq (next_modifyVariables d scope g _)

theorem Valid.spans_runAll (h : d.Valid) (os : List Operation) :
    (Operation.issuedAll os d).Spans d (Operation.runAll os d) := by
  induction os generalizing d with
  | nil => exact .of_next_eq rfl
  | cons o os ih => exact (h.spans_run o).append (ih (h.run o))

end Document

end GraphDraft
