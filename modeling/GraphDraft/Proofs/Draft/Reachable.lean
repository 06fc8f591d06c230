import GraphDraft.Proofs.Document.Unshared
import GraphDraft.Proofs.Draft.Mutation

/-!
# Reachable drafts

Whatever is done to a draft is done to its document by operations. So the document stays reachable
under every intent (`stable_reachable`), every mutation (`Reachable.mutate`) and every rollback
(`Reachable.rollback`), and what holds of reachable documents holds after any of these in any order
(`Draft.Edit`, `Reachable.edits`): no port is used twice (`unshared_edits`).
-/

namespace GraphDraft

theorem Operation.runAll_append (os us : List Operation) (d : Document) :
    runAll (os ++ us) d = runAll us (runAll os d) := by
  induction os generalizing d with
  | nil => rfl
  | cons o os ih => exact ih (o.run d)

namespace Document

variable {d e : Document}

/-! ## Variables -/

/-- Only what a change makes of the declarations that are there matters. -/
theorem modifyVariables_congr (hd : d.graphs.Distinct) {scope : Scope} {g : GraphId}
    {f k : Declarations → Declarations}
    (h : ∀ vs, d.declarations? scope g = some vs → f vs = k vs) :
    d.modifyVariables scope g f = d.modifyVariables scope g k := by
  cases scope with
  | graph =>
    simp only [modifyVariables, mapDeclarations]
    rw [Store.modify_congr hd fun x hx => ?_]
    rw [h x.declarations (congrArg (Option.map _) hx)]
  | object | scene | application | saved =>
    simp only [modifyVariables]
    rw [h _ rfl]

/-- Reaching for a scope that does not exist counts as a change all the same. -/
theorem modifyVariables_of_none (hd : d.graphs.Distinct) {scope : Scope} {g : GraphId}
    (h : d.declarations? scope g = none) (f : Declarations → Declarations) :
    d.modifyVariables scope g f = d.touch := by
  cases scope with
  | graph =>
    have hnone : ∀ vs, d.variables? g = some vs → f vs = vs := fun vs hvs => by
      rw [declarations?, ← variables?, hvs] at h
      cases h
    rw [modifyVariables, mapDeclarations_eq_self hd hnone]
  | object | scene | application | saved => cases h

/-! ## Operations in disguise -/

namespace Reachable

variable (h : d.Reachable)
include h

theorem run (o : Operation) : (o.run d).Reachable := by
  obtain ⟨title, os, rfl⟩ := h
  exact ⟨title, os ++ [o], (Operation.runAll_append os [o] _).symm⟩

theorem addNode {g : GraphId} {b : Blueprint} {p : Point} {n : NodeId}
    (ha : d.addNode g b p = some (n, e)) : e.Reachable := by
  have hrun := h.run (.addNode g b p)
  rwa [Operation.run, ha] at hrun

theorem addDefinition {g : GraphId} {p : PortPlan} {id : DefinitionId}
    (ha : d.addDefinition g p = some (id, e)) : e.Reachable := by
  have hrun := h.run (.addDefinition g p)
  rwa [Operation.run, ha] at hrun

theorem addEdge {c : Edge} (hc : d.canConnect c = true) : (d.addEdge c).Reachable := by
  have hrun := h.run (.connect c)
  rwa [Operation.run, connect, if_pos hc] at hrun

theorem makes {cs : List Edge} (hm : Makes d cs e) : e.Reachable := by
  induction hm with
  | nil => exact h
  | cons hc _ ih => exact ih (h.addEdge hc)

theorem revert (c : Change) : (c.revert d).Reachable := by
  cases c with
  | nodeCreated n => exact h.run (.removeNode n)
  | portDefined g id => exact h.run (.removeDefinition g id)
  | variableDeclared scope g name wasDefined =>
    rw [Change.revert]
    split
    · exact h
    · exact h.run (.editVariables scope g [.remove name])
  | defaultSet n key previous => exact h.run (.setDefault n key previous)
  | edgeConnected c => exact h.run (.disconnect c)

theorem rollback (j : Journal) : (j.rollback d).Reachable := by
  induction j with
  | nil => exact h
  | cons c j ih => exact ih.revert c

end Reachable

end Document

/-! ## Changes of a draft -/

open Document Draft

namespace Draft

variable {x y : Draft} (h : x.document.Reachable)
include h

theorem reachable_createNode {b : Blueprint} {left : Bool} {n : NodeId}
    (hc : x.createNode b left = some (n, y)) : y.document.Reachable := by
  refine createNode_induction hc ?_ ?_ ?_ ?_
  · intro g p e ha
    exact h.addNode ha
  · intro e p he
    exact he.run (.setPosition n p)
  · intro e c he _ hcan
    exact he.addEdge hcan
  · intro e he
    exact he.run (.select n)

theorem reachable_placeNode {g : GraphId} {b : Blueprint} {p : Point} {n : NodeId}
    (hp : x.placeNode g b p = some (n, y)) : y.document.Reachable := by
  obtain ⟨⟨m, e⟩, ha, hy⟩ := Option.map_eq_some_iff.1 hp
  cases hy
  exact h.addNode ha

theorem reachable_definePort {g : GraphId} {kind : PortKind} {name : String} {id : DefinitionId}
    (hp : x.definePort g kind name = some (id, y)) : y.document.Reachable := by
  obtain ⟨⟨i, e⟩, ha, hy⟩ := Option.map_eq_some_iff.1 hp
  cases hy
  exact h.addDefinition ha

theorem reachable_declareVariable (scope : Scope) (g : GraphId) (name : String)
    (type : DataType) : (x.declareVariable scope g name type).2.document.Reachable := by
  have hgraphs := h.valid.graphs
  rw [declareVariable]
  split
  · rename_i vs hvs
    show (x.document.modifyVariables scope g _).Reachable
    cases hc : vs.contains name with
    | true =>
      have hrun := h.run (.editVariables scope g [])
      rwa [Operation.run, modifyVariables_congr hgraphs fun ws hws => ?_] at hrun
      rw [hvs] at hws
      cases hws
      rw [if_pos hc]
      rfl
    | false =>
      have hrun := h.run (.editVariables scope g [.set name (.zero type)])
      rwa [Operation.run, modifyVariables_congr hgraphs fun ws hws => ?_] at hrun
      rw [hvs] at hws
      cases hws
      rw [if_neg (by simp [hc])]
      rfl
  · rename_i hnone
    have hrun := h.run (.editVariables scope g [])
    rwa [Operation.run, modifyVariables_of_none hgraphs hnone] at hrun

theorem reachable_setDefault (n : NodeId) (key : String) (v : Value) :
    (x.setDefault n key v).document.Reachable := by
  rw [setDefault]
  split
  · exact h.run (.setDefault n key v)
  · exact h

omit h in
/-- Whatever commands do to a document can be done by operations. -/
theorem stable_reachable : Stable fun x => x.document.Reachable where
  create h hc := reachable_createNode h hc
  access h hp _ := (reachable_placeNode h hp).run (.connect _)
  define h hp := reachable_definePort h hp
  declare scope g name type h := reachable_declareVariable h scope g name type
  fill n key v h := reachable_setDefault h n key v
  select n h := h.run (.select n)
  aside _ _ h := h

end Draft

theorem Document.Reachable.mutate {x : Draft} (h : x.document.Reachable) (m : Mutation) :
    (m.run x).document.Reachable := by
  cases m with
  | createNode b left =>
    rw [Mutation.run]
    cases hc : x.createNode b left with
    | none => exact h
    | some r => exact reachable_createNode h (n := r.1) hc
  | connectNodes source target => exact h.makes (wire_makes x.document source target)
  | connectSelection => exact h.makes (wireChain_makes x.document.selectedAcross x.document)
  | definePort g kind name =>
    rw [Mutation.run]
    cases hp : x.definePort g kind name with
    | none => exact h
    | some r =>
      obtain ⟨id, y⟩ := r
      exact reachable_definePort h hp
  | declareVariable scope g name type => exact reachable_declareVariable h scope g name type
  | placeNode g b p =>
    rw [Mutation.run]
    cases hp : x.placeNode g b p with
    | none => exact h
    | some r => exact reachable_placeNode h (n := r.1) hp
  | setDefault n key v => exact reachable_setDefault h n key v

/-! ## Any changes in any order -/

/-- What can become of a draft in one step. -/
inductive Draft.Edit where
  | operation (operation : Operation)
  | mutation (mutation : Mutation)
  | intent (catalog : Catalog) (intent : Intent)
  | rollback
  | commit

namespace Draft.Edit

/-- The draft after an edit. An intent that fails may leave its message. -/
def run (e : Edit) (x : Draft) : Draft :=
  match e with
  | operation o => { x with document := o.run x.document }
  | mutation m => m.run x
  | intent catalog i => (i.run catalog x).report
  | rollback => x.rollback
  | commit => x.commit

/-- The draft after some edits in order. -/
def runAll : List Edit → Draft → Draft
  | [], x => x
  | e :: es, x => runAll es (e.run x)

end Draft.Edit

namespace Document.Reachable

variable {x : Draft} (h : x.document.Reachable)
include h

theorem edit (e : Draft.Edit) : (e.run x).document.Reachable := by
  cases e with
  | operation o => exact h.run o
  | mutation m => exact h.mutate m
  | intent catalog i =>
    have hdurable := stable_reachable.durable
    exact hdurable.report (hdurable.run h catalog i)
  | rollback => exact h.rollback x.journal
  | commit => exact h

/-- A document that has been reached stays so, whatever is done to it. -/
theorem edits (es : List Draft.Edit) : (Draft.Edit.runAll es x).document.Reachable := by
  induction es generalizing x with
  | nil => exact h
  | cons e es ih => exact ih (h.edit e)

end Document.Reachable

/-! ## Ports that edges share -/

/-- Whatever is done to a draft, no port of its document is used by two edges. -/
theorem Draft.unshared_edits {x : Draft} (h : x.document.Reachable) (es : List Draft.Edit) :
    Unshared (Draft.Edit.runAll es x).document.allEdges :=
  (h.edits es).unshared

/-- Two nodes with two outputs of a key each and two inputs of another. -/
def doubledKeys : Document :=
  let ports : Ports :=
    { valueInputs := [⟨"in", .float, none⟩, ⟨"in", .float, none⟩]
      valueOutputs := [⟨"out", .float⟩, ⟨"out", .float⟩] }
  Operation.runAll
    [.addNode .root { kind := .unit "Add", title := "Add", ports } .origin,
     .addNode .root { kind := .unit "Add", title := "Add", ports } .origin]
    (.empty "Main")

/-- However often the two are joined, there is one edge each way. -/
theorem Draft.unshared_doubledKeys :
    let x := Draft.Edit.runAll
      [.mutation (.connectNodes ⟨0⟩ ⟨1⟩), .mutation (.connectNodes ⟨0⟩ ⟨1⟩),
        .mutation (.connectNodes ⟨1⟩ ⟨0⟩)] ⟨doubledKeys, [], [], {}⟩
    x.document.allEdges =
        [⟨.value, ⟨0⟩, "out", ⟨1⟩, "in"⟩, ⟨.value, ⟨1⟩, "out", ⟨0⟩, "in"⟩] ∧
      Unshared x.document.allEdges :=
  ⟨rfl, Draft.unshared_edits ⟨"Main", _, rfl⟩ _⟩

end GraphDraft
