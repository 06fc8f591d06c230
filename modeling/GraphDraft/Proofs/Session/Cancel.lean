import GraphDraft.Proofs.Document.Run
import GraphDraft.Proofs.Draft.Undo
import GraphDraft.Session

/-!
# Cancelling a session

While a session is open, its journal takes the document back to where the session was opened
(`Session.Opened`). Keystrokes keep it so, each of them starting over from there, and catalogs play
no part in it. Thus cancelling restores the document (`cancel_restores`).
-/

namespace GraphDraft

open Document Draft

/-- What can be done with an open session before it is closed. -/
inductive Session.Step where
  | keystroke (text : String)
  | rebuild

namespace Session

def step (s : Session) (d : Document) : Step → Except SessionError (Session × Document)
  | .keystroke text => s.keystroke text d
  | .rebuild => .ok (s.rebuild, d)

/-- Takes steps in order until one fails. -/
def steps : List Step → Session → Document → Except SessionError (Session × Document)
  | [], s, d => .ok (s, d)
  | t :: ts, s, d => (s.step d t).bind fun (s, d) => steps ts s d

/-- The session was opened on `d`, and `e` is what the document has become since. -/
structure Opened (d : Document) (s : Session) (e : Document) : Prop where
  isOpen : s.isOpen = true
  openedWith : s.openedWith = d.selection
  undoable : (s.draft e).Undoable d

variable {d e : Document} {s : Session}

/-! ## Opening and restarting -/

/-- A session that has just been opened on a document. -/
def activated (s : Session) (d : Document) : Session :=
  { s with
    state := .opened d.selection.head?, openedWith := d.selection, journal := [], stack := []
    feedback := { hint := some s.emptyHint }, text := "" }

theorem activate_eq (h : s.isOpen = false) (d : Document) :
    s.activate d = .ok (s.activated d) := by
  rw [activate, h]
  rfl

theorem isOpen_activated (s : Session) (d : Document) : (s.activated d).isOpen = true := by
  simp [isOpen, activated]

theorem opened_activated (h : d.Valid) (s : Session) : (s.activated d).Opened d d :=
  ⟨s.isOpen_activated d, rfl, ⟨h, .refl d⟩⟩

theorem activate_opened (h : d.Valid) (hs : s.isOpen = false) :
    ∃ s', s.activate d = .ok s' ∧ s'.Opened d d :=
  ⟨_, activate_eq hs d, opened_activated h s⟩

theorem Opened.restart_same (h : s.Opened d e) : (s.restart e).Same d :=
  { h.undoable.rollback with }

theorem Opened.restart_valid (h : s.Opened d e) : (s.restart e).Valid :=
  (h.undoable.valid.rollback s.journal).setSelection _

/-- The selection of a valid document can be set again wherever its nodes are. -/
theorem Opened.selection_restart (hd : d.Valid) (h : s.Opened d e) :
    (s.restart e).selection = d.selection := by
  have hnodes : (s.journal.rollback e).nodes = d.nodes := h.undoable.rollback.nodes
  refine (congrArg _ h.openedWith).trans (liveOnce_eq_self hd.selection_nodup fun n hn => ?_)
  rw [hnodes]
  exact contains_node_iff.2 (hd.selected n hn)

/-! ## Steps -/

/-- A session that starts over. -/
def restarted (s : Session) (text : String) : Session :=
  { s with journal := [], stack := [], feedback := {}, text := text }

theorem Opened.restarted (h : s.Opened d e) (text : String) :
    (s.restarted text).Opened d (s.restart e) where
  isOpen := h.isOpen
  openedWith := h.openedWith
  undoable := ⟨h.restart_valid, h.restart_same⟩

/-- What a line makes of a session and a document, from which it starts over. -/
def entered (s : Session) (text : String) (d : Document) : Session × Document :=
  if (Text.trim text.toList).isEmpty then
    ({ s.restarted text with feedback := { hint := some s.emptyHint } }, d)
  else
    (s.restarted text).resume
      (runAll s.catalog (s.registry.intents text) ((s.restarted text).draft d)).2

theorem keystroke_eq (hs : s.isOpen = true) (text : String) (e : Document) :
    s.keystroke text e = .ok (s.entered text (s.restart e)) := by
  rw [keystroke, if_pos hs, entered]
  split <;> rfl

theorem isOpen_entered (s : Session) (text : String) (d : Document) :
    (s.entered text d).1.isOpen = s.isOpen := by
  rw [entered]
  split <;> rfl

/-- A line can be typed into an open session, and leaves it open. -/
theorem keystroke_open (h : s.isOpen = true) (text : String) (d : Document) :
    ∃ t e, s.keystroke text d = .ok (t, e) ∧ t.isOpen = true :=
  ⟨_, _, keystroke_eq h text d, (s.isOpen_entered text (s.restart d)).trans h⟩

theorem Opened.entered (h : s.Opened d e) (text : String) :
    (s.entered text (s.restart e)).1.Opened d (s.entered text (s.restart e)).2 := by
  have hr := h.restarted text
  rw [Session.entered]
  split
  · exact ⟨h.isOpen, h.openedWith, ⟨hr.undoable.valid, hr.undoable.rollback⟩⟩
  · have hrun := (stable_undoable d).runAll hr.undoable s.catalog (s.registry.intents text)
    exact ⟨h.isOpen, h.openedWith, ⟨hrun.valid, hrun.rollback⟩⟩

theorem Opened.keystroke (h : s.Opened d e) (text : String) :
    ∃ s' e', s.keystroke text e = .ok (s', e') ∧ s'.Opened d e' :=
  ⟨_, _, keystroke_eq h.isOpen text e, h.entered text⟩

theorem Opened.step (h : s.Opened d e) (t : Step) :
    ∃ s' e', s.step e t = .ok (s', e') ∧ s'.Opened d e' := by
  cases t with
  | keystroke text => exact h.keystroke text
  | rebuild => exact ⟨_, _, rfl, h.isOpen, h.openedWith, ⟨h.undoable.valid, h.undoable.rollback⟩⟩

theorem Opened.steps (h : s.Opened d e) (ts : List Step) :
    ∃ s' e', Session.steps ts s e = .ok (s', e') ∧ s'.Opened d e' := by
  induction ts generalizing s e with
  | nil => exact ⟨s, e, rfl, h⟩
  | cons t ts ih =>
    obtain ⟨s₁, e₁, h₁, ho⟩ := h.step t
    rw [Session.steps, h₁]
    exact ih ho

/-- Cancelling a session takes the document back to where the session was opened: only counters and
the revision may differ. -/
theorem cancel_restores (hd : d.Reachable) (hs : s.isOpen = false) (ts : List Step) :
    ∃ s₁ s₂ e k s₃ r, s.activate d = .ok s₁ ∧ Session.steps ts s₁ d = .ok (s₂, e) ∧
      s₂.cancel e = .ok (k, s₃, r) ∧
      { r with
        nextNode := d.nextNode, nextGraph := d.nextGraph, nextDefinition := d.nextDefinition
        revision := d.revision } = d := by
  obtain ⟨s₁, hact, ho₁⟩ := activate_opened hd.valid hs
  obtain ⟨s₂, e, hsteps, ho₂⟩ := ho₁.steps ts
  refine ⟨s₁, s₂, e, _, _, _, hact, hsteps, by rw [cancel, if_pos ho₂.isOpen], ?_⟩
  have hsame := ho₂.restart_same
  have hsel := ho₂.selection_restart hd.valid
  simp only [hsame.graphs, hsame.nodes, hsame.pointer, hsame.objectVariables, hsame.sceneVariables,
    hsame.applicationVariables, hsame.savedVariables, hsel]

/-- A session on an empty document that types, builds the catalog anew and types again. -/
theorem cancel_restores_empty :
    ∃ s₁ s₂ e k s₃ r, (Session.new .standard []).activate (.empty "Main") = .ok s₁ ∧
      Session.steps [.keystroke "subgraph:a", .rebuild, .keystroke "b"] s₁ (.empty "Main") =
        .ok (s₂, e) ∧
      s₂.cancel e = .ok (k, s₃, r) ∧
      { r with nextNode := 0, nextGraph := 1, nextDefinition := 0, revision := 0 } =
        Document.empty "Main" :=
  cancel_restores ⟨"Main", [], rfl⟩ rfl [.keystroke "subgraph:a", .rebuild, .keystroke "b"]

end Session

end GraphDraft
