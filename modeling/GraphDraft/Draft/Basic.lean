import GraphDraft.Journal
import GraphDraft.Layout

/-!
# Drafts

A document with what a line has done to it so far: the journal of the changes, the nodes created,
and what there is to tell the user.
-/

namespace GraphDraft

/-- What the user is shown besides the document. -/
structure Feedback where
  /-- The names that the last token could mean. -/
  hint : Option String := none
  output : List String := []
deriving DecidableEq, Repr

structure Draft where
  document : Document
  journal : Journal := []
  /-- The nodes created, oldest first. -/
  stack : List NodeId := []
  feedback : Feedback := {}

namespace Draft

/-- Notes a change in the journal. -/
def record (d : Draft) (c : Change) : Draft :=
  { d with journal := d.journal ++ [c] }

/-- Adds a line to the output. -/
def say (d : Draft) (line : String) : Draft :=
  { d with feedback := { d.feedback with output := d.feedback.output ++ [line] } }

/-- Undoes every change in the journal. -/
def rollback (d : Draft) : Draft :=
  { d with document := d.journal.rollback d.document, journal := [] }

/-- Keeps every change and forgets the journal. -/
def commit (d : Draft) : Draft :=
  { d with journal := [] }

/-- The graph that port commands edit: the body of the selected composite, else the root. -/
def editedGraph (d : Draft) : GraphId :=
  (d.document.anchor?.bind (·.2.body)).getD .root

end Draft

end GraphDraft
