import GraphDraft.Command.Registry
import GraphDraft.Command.Run

/-!
# Sessions

A session lets the user see what a line would do before deciding. Every keystroke takes the
document back to where the session was opened and runs the whole line from there, so what is seen
is what confirming keeps. At most one session is open.
-/

namespace GraphDraft

/-- Misuse of the order of opening and closing. -/
inductive SessionError where
  | alreadyOpen
  | notOpen
deriving DecidableEq, Repr

def SessionError.message : SessionError → String
  | alreadyOpen => "A prompt session is already open"
  | notOpen => "No prompt session is open"

inductive SessionState where
  | closed
  /-- The anchor is the first node that was selected when the session was opened. -/
  | opened (anchor : Option NodeId)
deriving DecidableEq, Repr

/-- The interpreter of prompt lines. The document is kept beside it. -/
structure Session where
  config : Config
  sources : List Source
  catalog : Catalog
  registry : Registry
  state : SessionState := .closed
  /-- What was selected when the session was opened. -/
  openedWith : List NodeId := []
  journal : Journal := []
  stack : List NodeId := []
  feedback : Feedback := {}
  text : String := ""

namespace Session

/-- Registers the configured verbs; those for unknown verbs are left out. -/
def withAliases (r : Registry) (aliases : List Alias) : Registry :=
  aliases.foldl (fun r a => (r.alias? a.name a.target).getD r) r

/-- A closed session. -/
def new (config : Config) (sources : List Source) : Session where
  config := config
  sources := sources
  catalog := .build sources config
  registry := withAliases .standard config.verbAliases

def isOpen (s : Session) : Bool :=
  s.state ≠ .closed

/-- Builds the catalog anew. An open session uses it from the next keystroke on. -/
def rebuild (s : Session) : Session :=
  { s with catalog := .build s.sources s.config }

/-- The hint for a line without tokens. -/
def emptyHint (s : Session) : String :=
  "Type unit names (" ++ toString s.catalog.size ++ " units)"

/-- A document as a draft of the session. -/
def draft (s : Session) (d : Document) : Draft :=
  ⟨d, s.journal, s.stack, s.feedback⟩

/-- Takes over what a draft has come to. -/
def resume (s : Session) (d : Draft) : Session × Document :=
  ({ s with journal := d.journal, stack := d.stack, feedback := d.feedback }, d.document)

/-- Opens a session on a document. -/
def activate (s : Session) (d : Document) : Except SessionError Session :=
  if s.isOpen then .error .alreadyOpen
  else .ok { s with
    state := .opened d.selection.head?
    openedWith := d.selection
    journal := []
    stack := []
    feedback := { hint := some s.emptyHint }
    text := "" }

/-- Takes a document back to where the session was opened. -/
def restart (s : Session) (d : Document) : Document :=
  (s.journal.rollback d).setSelection s.openedWith

/-- Replaces the line and runs it from the start. -/
def keystroke (s : Session) (text : String) (d : Document) :
    Except SessionError (Session × Document) :=
  if s.isOpen then
    let d := s.restart d
    let s := { s with journal := [], stack := [], feedback := {}, text := text }
    if (Text.trim text.toList).isEmpty then
      .ok ({ s with feedback := { hint := some s.emptyHint } }, d)
    else
      .ok (s.resume (runAll s.catalog (s.registry.intents text) (s.draft d)).2)
  else .error .notOpen

/-- The session once it is over. Its feedback and its text stay to be shown. -/
def close (s : Session) : Session :=
  { s with state := .closed, openedWith := [], journal := [], stack := [] }

/-- Keeps what the line has done; also gives the number of changes. -/
def confirm (s : Session) : Except SessionError (Nat × Session) :=
  if s.isOpen then .ok (s.journal.length, s.close) else .error .notOpen

/-- Undoes what the line has done; also gives the number of changes. -/
def cancel (s : Session) (d : Document) : Except SessionError (Nat × Session × Document) :=
  if s.isOpen then .ok (s.journal.length, s.close, s.restart d) else .error .notOpen

/-- Selects all nodes of the graph that holds the selection, or of the root graph. -/
def selectAll (s : Session) (d : Document) : Except SessionError (Nat × Document) :=
  if s.isOpen then .error .alreadyOpen
  else
    let d := d.selectGraph (d.anchor?.elim .root (·.2.graph))
    .ok (d.selection.length, d)

/-- Chains the selected nodes; also gives the number of edges. -/
def connectSelection (s : Session) (d : Document) :
    Except SessionError (Nat × Session × Document) :=
  if s.isOpen then .error .alreadyOpen
  else
    let (made, draft) := { s.draft d with stack := [] : Draft }.connectSelection
    .ok (made, { s with journal := [], feedback := draft.feedback }, draft.document)

end Session

end GraphDraft
