import GraphDraft.Proofs.Document.Deletion
import GraphDraft.Proofs.Document.Interface

/-!
# The revision counts changes

Every operation but one leaves the document as it is or takes it to a later revision
(`revises_run`). The one is moving the pointer, which is not counted. So the revision never goes
back, and as long as it stays the same nothing but the pointer has changed (`revision_counts`).
-/

namespace GraphDraft

namespace Document

/-- Document `e` is `d`, or comes at a later revision. -/
def Revises (d e : Document) : Prop := e = d ∨ d.revision < e.revision

/-- Document `e` is `d` but for the pointer, or comes at a later revision. -/
def Follows (d e : Document) : Prop :=
  e = { d with pointer := e.pointer } ∨ d.revision < e.revision

variable {d e f : Document}

theorem Revises.refl (d : Document) : d.Revises d := .inl rfl

theorem Revises.follows (h : d.Revises e) : d.Follows e :=
  h.imp_left fun he => by rw [he]

namespace Follows

theorem refl (d : Document) : d.Follows d := (Revises.refl d).follows

theorem revision_le (h : d.Follows e) : d.revision ≤ e.revision := by
  rcases h with he | hlt
  · rw [he]
  · exact Nat.le_of_lt hlt

theorem trans (h : d.Follows e) (k : e.Follows f) : d.Follows f := by
  rcases k with hf | hlt
  · rcases h with he | hlt
    · left
      rw [hf, he]
    · right
      rwa [hf]
  · exact .inr (Nat.lt_of_le_of_lt h.revision_le hlt)

end Follows

/-! ## Single operations -/

theorem Revises.once (h : e.revision = d.revision + 1) : d.Revises e :=
  .inr (Nat.lt_of_lt_of_eq (Nat.lt_succ_self _) h.symm)

/-- What is done on a condition is done, or nothing is. -/
theorem Revises.ite (h : d.Revises e) (b : Bool) : d.Revises (if b then e else d) := by
  split
  · exact h
  · exact .refl d

theorem revises_addEdge (d : Document) (c : Edge) : d.Revises (d.addEdge c) := by
  rw [addEdge]
  split
  · exact .once rfl
  · exact .refl d

theorem revises_disconnect (d : Document) (c : Edge) : d.Revises (d.disconnect c) := by
  rw [disconnect]
  split
  · exact .ite (.once rfl) _
  · exact .refl d

theorem revises_modifyVariables (d : Document) (scope : Scope) (g : GraphId)
    (p : Declarations → Declarations) : d.Revises (d.modifyVariables scope g p) := by
  cases scope <;> exact .once rfl

theorem revision_derivePorts (d : Document) (g : GraphId) :
    (d.derivePorts g).revision = d.revision := by
  rw [derivePorts]
  split
  · rfl
  · split <;> rfl

theorem revises_addDefinition (d : Document) (g : GraphId) (p : PortPlan) :
    d.Revises (((d.addDefinition g p).map (·.2)).getD d) := by
  rw [addDefinition]
  split
  · exact .once (editDefinitions_frame ..).2
  · exact .refl d

theorem revises_addNode (d : Document) (g : GraphId) (b : Blueprint) (p : Point) :
    d.Revises (((d.addNode g b p).map (·.2)).getD d) := by
  rw [addNode]
  split
  · cases b.body with
    | none => exact .once rfl
    | some plan => exact .once (congrArg (· + 1) (revision_derivePorts ..))
  · exact .refl d

mutual

theorem Deletes.revises {d e : Document} {n : NodeId} {found : Bool} :
    Deletes d n found e → d.Revises e
  | .unknown _ => .refl d
  | .plain _ _ => .once rfl
  | .composite _ _ hg => .inr (Nat.lt_succ_of_le hg.revision_le)

theorem DeletesGraph.revision_le {d e : Document} {g : GraphId} :
    DeletesGraph d g e → d.revision ≤ e.revision
  | .unknown _ => Nat.le_refl _
  | .known _ hns => hns.revision_le

theorem DeletesAll.revision_le {d e : Document} {ns : List NodeId} :
    DeletesAll d ns e → d.revision ≤ e.revision
  | .nil => Nat.le_refl _
  | .cons hn hns => hn.revises.follows.revision_le.trans hns.revision_le

end

theorem revises_removeNode (d : Document) (n : NodeId) : d.Revises (d.removeNode n) :=
  (deletes_removeWithin d.nodes.size d n (Nat.le_refl _)).revises

/-- Every operation is counted if it does anything, unless it moves the pointer. -/
theorem revises_run (d : Document) {o : Operation} (ho : ∀ p, o ≠ .setPointer p) :
    d.Revises (o.run d) := by
  cases o with
  | select n => exact .once rfl
  | setSelection ns => exact .once rfl
  | extendSelection n => exact .ite (.once rfl) _
  | selectGraph g => exact .once rfl
  | setPointer p => exact absurd rfl (ho p)
  | setPosition n p => exact .ite (.once rfl) _
  | addNode g b p => exact revises_addNode d g b p
  | removeNode n => exact revises_removeNode d n
  | connect c => exact .ite (revises_addEdge d c) _
  | disconnect c => exact revises_disconnect d c
  | setDefault n key v => exact .ite (.once rfl) _
  | addDefinition g p => exact revises_addDefinition d g p
  | removeDefinition g id => exact .ite (.once (editDefinitions_frame ..).2) _
  | definitionsChanged g => exact .once (congrArg (· + 1) (revision_derivePorts d g))
  | editVariables scope g es => exact revises_modifyVariables d scope g _

/-! ## Runs -/

theorem follows_run (d : Document) (o : Operation) : d.Follows (o.run d) := by
  by_cases ho : ∃ p, o = .setPointer p
  · obtain ⟨p, rfl⟩ := ho
    exact .inl rfl
  · exact (revises_run d fun p hp => ho ⟨p, hp⟩).follows

theorem follows_runAll (d : Document) (os : List Operation) :
    d.Follows (Operation.runAll os d) := by
  induction os generalizing d with
  | nil => exact .refl d
  | cons o os ih => exact (follows_run d o).trans (ih _)

/-- Whatever operations are run, the revision never goes back, and if it stays the same nothing but
the pointer has changed. An operation that changes anything is counted, unless it moves the
pointer. -/
theorem revision_counts (d : Document) :
    (∀ os, d.revision ≤ (Operation.runAll os d).revision ∧
      ((Operation.runAll os d).revision = d.revision →
        Operation.runAll os d = { d with pointer := (Operation.runAll os d).pointer })) ∧
    ∀ o : Operation, (o.run d ≠ d → d.revision < (o.run d).revision) ↔
      ∀ p, o = .setPointer p → p = d.pointer := by
  refine ⟨fun os => ?_, fun o => ⟨fun h p hp => ?_, fun h hne => ?_⟩⟩
  · have hall := follows_runAll d os
    exact ⟨hall.revision_le, fun hsame => hall.resolve_right hsame.not_gt⟩
  · subst hp
    by_contra hmoved
    -- the document is another one with another pointer, at the same revision
    exact Nat.lt_irrefl _ (h fun he => hmoved (congrArg pointer he))
  · by_cases ho : ∃ p, o = .setPointer p
    · obtain ⟨p, rfl⟩ := ho
      refine absurd ?_ hne
      rw [h p rfl]
      rfl
    · exact (revises_run d fun p hp => ho ⟨p, hp⟩).resolve_left hne

/-- Moving the pointer of an empty document is not counted, although it can be looked up. -/
theorem not_revision_counts_pointer : ¬∀ (d : Document) (o : Operation), d.Reachable →
    (o.run d).pointer ≠ d.pointer → d.revision < (o.run d).revision := by
  intro h
  have hmoved := h (.empty "Main") (.setPointer ⟨1, 2⟩) ⟨"Main", [], rfl⟩ (by decide +kernel)
  exact Nat.lt_irrefl _ hmoved

end Document

end GraphDraft
