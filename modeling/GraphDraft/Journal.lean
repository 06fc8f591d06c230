import GraphDraft.Document.Nodes

/-!
# Journals

The changes made while a line is being typed, in order, each with what it takes to undo it. Rolling
a journal back undoes the newest change first; committing forgets the journal.
-/

namespace GraphDraft

/-- A change that can be undone. -/
inductive Change where
  | nodeCreated (node : NodeId)
  | portDefined (graph : GraphId) (definition : DefinitionId)
  /-- A variable that was defined before stays when the change is undone. -/
  | variableDeclared (scope : Scope) (graph : GraphId) (name : String) (wasDefined : Bool)
  | defaultSet (node : NodeId) (key : String) (previous : Value)
  /-- An edge between two nodes that were there before it. -/
  | edgeConnected (edge : Edge)
deriving DecidableEq, Repr

/-- Undoes a change. -/
def Change.revert (c : Change) (d : Document) : Document :=
  match c with
  | nodeCreated n => d.removeNode n
  | portDefined g id => d.removeDefinition g id
  | variableDeclared scope g name wasDefined =>
    if wasDefined then d else d.modifyVariables scope g (·.erase name)
  | defaultSet n key previous => d.setDefault n key previous
  | edgeConnected e => d.disconnect e

/-- Changes, oldest first. -/
abbrev Journal := List Change

/-- Undoes a journal, newest change first. -/
def Journal.rollback (j : Journal) (d : Document) : Document :=
  j.foldr Change.revert d

@[simp] theorem Journal.rollback_nil (d : Document) : Journal.rollback [] d = d := rfl

theorem Journal.rollback_append (j k : Journal) (d : Document) :
    Journal.rollback (j ++ k) d = Journal.rollback j (Journal.rollback k d) := by
  simp [rollback]

end GraphDraft
