import GraphDraft.Proofs.Draft.Stable
import GraphDraft.Proofs.Draft.Wiring

/-!
# Counters never go back

`Later d e` says that the counters and the revision of `e` have reached those of `d`. They never go
back, neither while a line is run (`stable_later`) nor when it is undone (`Later.rollback`).
-/

namespace GraphDraft

namespace Document

/-- The counters and the revision of one document have reached those of another. -/
structure Later (d e : Document) : Prop where
  nextNode : d.nextNode ≤ e.nextNode
  nextGraph : d.nextGraph ≤ e.nextGraph
  nextDefinition : d.nextDefinition ≤ e.nextDefinition
  revision : d.revision ≤ e.revision

namespace Later

variable {d e f : Document}

theorem refl (d : Document) : d.Later d :=
  ⟨Nat.le_refl _, Nat.le_refl _, Nat.le_refl _, Nat.le_refl _⟩

theorem trans (h : d.Later e) (k : e.Later f) : d.Later f :=
  ⟨Nat.le_trans h.nextNode k.nextNode, Nat.le_trans h.nextGraph k.nextGraph,
    Nat.le_trans h.nextDefinition k.nextDefinition, Nat.le_trans h.revision k.revision⟩

theorem touch (h : d.Later e) : d.Later e.touch :=
  { h with revision := Nat.le_succ_of_le h.revision }

section
variable (h : d.Later e)
include h

theorem setSelection (ns : List NodeId) : d.Later (e.setSelection ns) :=
  { h with revision := Nat.le_succ_of_le h.revision }

theorem setPosition (n : NodeId) (p : Point) : d.Later (e.setPosition n p) := by
  rw [Document.setPosition]
  split
  · exact { h with revision := Nat.le_succ_of_le h.revision }
  · exact h

theorem addEdge (c : Edge) : d.Later (e.addEdge c) := by
  rw [Document.addEdge]
  split
  · exact { h with revision := Nat.le_succ_of_le h.revision }
  · exact h

theorem connect (c : Edge) : d.Later (e.connect c) := by
  rw [Document.connect]
  split
  · exact h.addEdge c
  · exact h

theorem disconnect (c : Edge) : d.Later (e.disconnect c) := by
  rw [Document.disconnect]
  split
  · split
    · exact { h with revision := Nat.le_succ_of_le h.revision }
    · exact h
  · exact h

theorem setDefault (n : NodeId) (key : String) (v : Value) : d.Later (e.setDefault n key v) := by
  rw [Document.setDefault]
  split
  · exact { h with revision := Nat.le_succ_of_le h.revision }
  · exact h

theorem modifyVariables (scope : Scope) (g : GraphId) (p : Declarations → Declarations) :
    d.Later (e.modifyVariables scope g p) := by
  cases scope <;> exact { h with revision := Nat.le_succ_of_le h.revision }

theorem derivePorts (g : GraphId) : d.Later (e.derivePorts g) := by
  rw [Document.derivePorts]
  split
  · exact h
  · split
    · exact h
    · exact { h with }

theorem editDefinitions (g : GraphId) (p : List PortDefinition → List PortDefinition) :
    d.Later (e.editDefinitions g p) := by
  have hm : d.Later (e.mapDefinitions g p) := { h with }
  exact (hm.derivePorts g).touch

theorem addDefinition {g : GraphId} {p : PortPlan} {id : DefinitionId}
    (ha : e.addDefinition g p = some (id, f)) : d.Later f := by
  rw [Document.addDefinition] at ha
  split at ha
  · cases ha
    have hm : d.Later { e with nextDefinition := e.nextDefinition + 1 } :=
      { h with nextDefinition := Nat.le_succ_of_le h.nextDefinition }
    exact hm.editDefinitions g _
  · cases ha

theorem removeDefinition (g : GraphId) (id : DefinitionId) : d.Later (e.removeDefinition g id) := by
  rw [Document.removeDefinition]
  split
  · exact h.editDefinitions g _
  · exact h

theorem addNode {g : GraphId} {b : Blueprint} {p : Point} {n : NodeId}
    (ha : e.addNode g b p = some (n, f)) : d.Later f := by
  rw [Document.addNode] at ha
  split at ha
  · cases ha
    have hnode := Nat.le_succ_of_le h.nextNode
    cases b.body with
    | none => exact touch { h with nextNode := hnode }
    | some plan =>
      refine touch (derivePorts ?_ _)
      exact { h with
        nextNode := hnode, nextGraph := Nat.le_succ_of_le h.nextGraph
        nextDefinition := Nat.le_add_right_of_le h.nextDefinition }
  · cases ha

theorem detach (n : NodeId) (g : GraphId) : d.Later (e.detach n g) :=
  { h with revision := Nat.le_succ_of_le h.revision }

theorem removeWithin (depth : Nat) (n : NodeId) : d.Later (Document.removeWithin depth n e) := by
  induction depth generalizing e n with
  | zero => exact h
  | succ depth ih =>
    have hfold : ∀ (ns : List NodeId) {f : Document}, d.Later f →
        d.Later (ns.foldl (fun f m => Document.removeWithin depth m f) f) := by
      intro ns
      induction ns with
      | nil => exact fun hf => hf
      | cons m ns ihns => exact fun hf => ihns (ih hf m)
    rw [Document.removeWithin]
    split
    · exact h
    · refine detach ?_ _ _
      split
      · exact hfold _ { h with }
      · exact { h with }

theorem removeNode (n : NodeId) : d.Later (e.removeNode n) :=
  h.removeWithin _ n

theorem revert (c : Change) : d.Later (c.revert e) := by
  cases c with
  | nodeCreated n => exact h.removeNode n
  | portDefined g id => exact h.removeDefinition g id
  | variableDeclared scope g name wasDefined =>
    rw [Change.revert]
    split
    · exact h
    · exact h.modifyVariables scope g _
  | defaultSet n key previous => exact h.setDefault n key previous
  | edgeConnected c => exact h.disconnect c

theorem rollback (j : Journal) : d.Later (j.rollback e) := by
  induction j with
  | nil => exact h
  | cons c j ih => exact ih.revert c

end

end Later

variable {d : Document}

theorem Later.createNode {x y : Draft} (h : d.Later x.document) {b : Blueprint} {left : Bool}
    {n : NodeId} (hc : x.createNode b left = some (n, y)) : d.Later y.document :=
  createNode_induction hc (fun ha => h.addNode ha) (fun hl => hl.setPosition _ _)
    (fun hl _ _ => hl.addEdge _) fun hl => hl.setSelection _

/-- Running a line never takes counters back. -/
theorem stable_later (d : Document) : Draft.Stable (fun x => d.Later x.document) where
  create h hc := h.createNode hc
  access h hp _ := by
    obtain ⟨⟨m, e⟩, ha, hy⟩ := Option.map_eq_some_iff.1 hp
    cases hy
    exact (h.addNode ha).connect _
  define h hp := by
    obtain ⟨⟨i, e⟩, ha, hy⟩ := Option.map_eq_some_iff.1 hp
    cases hy
    exact h.addDefinition ha
  declare scope g name type h := by
    rw [Draft.declareVariable]
    split
    · exact h.modifyVariables scope g _
    · exact h.touch
  fill n key v h := by
    rw [Draft.setDefault]
    split
    · exact h.setDefault n key v
    · exact h
  select _ h := h.setSelection _
  aside _ _ h := h

end Document

end GraphDraft
