import GraphDraft.Prompt.Keymap
import GraphDraft.Prompt.Line
import GraphDraft.Session

/-!
# The prompt

The prompt turns key presses into calls of a session. It opens a session when something is typed,
and runs the line again after every change of it.
-/

namespace GraphDraft

/-- What a key press has done. -/
inductive PromptEvent where
  /-- The line was changed and run. -/
  | edited
  | unchanged
  | confirmed
  | cancelled
  /-- The line was kept and the document then changed as a whole. -/
  | applied
  | quit
deriving DecidableEq, Repr

/-- The line being typed and the session it is typed into. -/
structure Prompt where
  session : Session
  document : Document
  line : PromptLine := {}

namespace Prompt

/-- What a key press leads to. -/
abbrev Step := Except SessionError (PromptEvent × Prompt)

/-- Opens the session if it is closed. -/
def ensureOpen (p : Prompt) : Except SessionError Prompt :=
  if p.session.isOpen then .ok p
  else do return { p with session := ← p.session.activate p.document }

/-- Undoes what the line has done, if a session is open. -/
def withdraw (p : Prompt) : Except SessionError Prompt :=
  if p.session.isOpen then do
    let (_, session, document) ← p.session.cancel p.document
    return { p with session, document }
  else .ok p

/-- Keeps what the line has done, if a session is open, and clears the line. -/
def settle (p : Prompt) : Except SessionError Prompt :=
  if p.session.isOpen then do
    let (_, session) ← p.session.confirm
    return { p with session, line := {} }
  else .ok { p with line := {} }

/-- Runs the line again. -/
def replay (p : Prompt) : Except SessionError Prompt := do
  let (session, document) ← p.session.keystroke p.line.text p.document
  return { p with session, document }

/-- Runs the line again, in a session opened for it if need be. -/
def typed (p : Prompt) : Step := do
  return (.edited, ← (← p.ensureOpen).replay)

/-- Gives the line up. -/
def cancel (p : Prompt) : Step := do
  return (.cancelled, { ← p.withdraw with line := {} })

/-- Carries out an action. -/
def act (p : Prompt) : Action → Step
  | .quit => do return (.quit, ← p.withdraw)
  | .confirm => do return (.confirmed, ← p.settle)
  | .cancel => p.cancel
  | .rebuild =>
    let p := { p with session := p.session.rebuild }
    if p.session.isOpen then do return (.edited, ← p.replay) else .ok (.unchanged, p)
  | .selectAll => do
    let p ← p.settle
    let (_, document) ← p.session.selectAll p.document
    return (.applied, { p with document })
  | .connectSelection => do
    let p ← p.settle
    let (_, session, document) ← p.session.connectSelection p.document
    return (.applied, { p with session, document })

/-- Handles a key press. -/
def press (m : Keymap) (p : Prompt) (k : KeyPress) : Step :=
  match m.gesture k with
  | .act a => p.act a
  | .insert c => typed { p with line := p.line.insert c }
  | .edit k =>
    let edited := { p with line := p.line.edit k }
    if p.line.changedBy k then edited.typed else .ok (.unchanged, edited)
  | .ignore => .ok (.unchanged, p)

end Prompt

end GraphDraft
