import GraphDraft.Prompt.Basic
import GraphDraft.Proofs.Draft.Mutation
import GraphDraft.Proofs.Prompt.Line
import GraphDraft.Proofs.Renaming.Outline
import GraphDraft.Proofs.Session.Cancel

/-!
# What pressing keys leaves behind

At a prompt, giving the line up always leads back to a document with a certain outline
(`Prompt.Keeps`), whether a session is open or not. A key press either goes on with the line, of
which the session has the text, or leaves the prompt without a session (`Prompt.press_spec`); it
never fails.
-/

namespace GraphDraft

open Document

namespace Session

variable {s : Session} {d e : Document}

theorem Opened.outline_restart (hd : d.Valid) (h : s.Opened d e) :
    (s.restart e).outline = d.outline :=
  h.restart_same.outline_eq (h.selection_restart hd)

theorem entered_text (s : Session) (text : String) (d : Document) :
    (s.entered text d).1.text = text := by
  rw [entered]
  split <;> rfl

end Session

namespace Prompt

variable {p q : Prompt} {o : String}

/-- No session is open, and the document is valid. -/
structure Idle (p : Prompt) : Prop where
  closed : p.session.isOpen = false
  valid : p.document.Valid

/-- A session is open, which was opened on a document with the outline `o`. -/
def OpenedOn (o : String) (p : Prompt) : Prop :=
  ∃ d : Document, d.Valid ∧ d.outline = o ∧ p.session.Opened d p.document

/-- Giving the line up leads to a document with the outline `o`. -/
def Keeps (o : String) (p : Prompt) : Prop :=
  p.Idle ∧ p.document.outline = o ∨ p.OpenedOn o

/-- An open session has the text of the line. -/
def InStep (p : Prompt) : Prop :=
  p.session.isOpen = true → p.session.text = p.line.text

theorem OpenedOn.isOpen (h : p.OpenedOn o) : p.session.isOpen = true := by
  obtain ⟨d, -, -, ho⟩ := h
  exact ho.isOpen

theorem Idle.withLine (h : p.Idle) (l : PromptLine) : Idle { p with line := l } :=
  ⟨h.closed, h.valid⟩

theorem Idle.inStep (h : p.Idle) : p.InStep := by
  intro hopen
  rw [h.closed] at hopen
  cases hopen

theorem Keeps.withLine (h : p.Keeps o) (l : PromptLine) : Keeps o { p with line := l } :=
  h.imp_left fun ⟨hi, hout⟩ => ⟨hi.withLine l, hout⟩

/-! ## Parts of key presses -/

theorem withdraw_spec (h : p.Keeps o) :
    ∃ q, p.withdraw = .ok q ∧ q.Idle ∧ q.document.outline = o := by
  rcases h with ⟨hi, ho⟩ | ⟨d, hd, hout, ho⟩
  · refine ⟨p, ?_, hi, ho⟩
    rw [withdraw, hi.closed]
    rfl
  · refine ⟨{ p with session := p.session.close, document := p.session.restart p.document }, ?_, ?_,
      (ho.outline_restart hd).trans hout⟩
    · rw [withdraw, if_pos ho.isOpen, Session.cancel, if_pos ho.isOpen]
      rfl
    · exact ⟨rfl, ho.restart_valid⟩

theorem settle_spec (h : p.Keeps o) : ∃ q, p.settle = .ok q ∧ q.Idle ∧ q.line = {} := by
  rcases h with ⟨hi, -⟩ | ⟨d, -, -, ho⟩
  · refine ⟨{ p with line := {} }, ?_, hi.withLine {}, rfl⟩
    rw [settle, hi.closed]
    rfl
  · refine ⟨{ p with session := p.session.close, line := {} }, ?_, ⟨rfl, ho.undoable.valid⟩, rfl⟩
    rw [settle, if_pos ho.isOpen, Session.confirm, if_pos ho.isOpen]
    rfl

theorem ensureOpen_idle (h : p.Idle) :
    ∃ s, p.ensureOpen = .ok { p with session := s } ∧ s.Opened p.document p.document ∧
      s.text = "" := by
  obtain ⟨s, hact, ho⟩ := Session.activate_opened h.valid h.closed
  refine ⟨s, ?_, ho, ?_⟩
  · rw [ensureOpen, h.closed, hact]
    rfl
  · rw [Session.activate, h.closed] at hact
    cases hact
    rfl

theorem ensureOpen_spec (h : p.Keeps o) :
    ∃ q, p.ensureOpen = .ok q ∧ q.OpenedOn o ∧ q.line = p.line := by
  rcases h with ⟨hi, hout⟩ | ho
  · obtain ⟨s, hs, ho, -⟩ := ensureOpen_idle hi
    exact ⟨_, hs, ⟨p.document, hi.valid, hout, ho⟩, rfl⟩
  · refine ⟨p, ?_, ho, rfl⟩
    rw [ensureOpen, if_pos ho.isOpen]

theorem replay_spec (h : p.OpenedOn o) : ∃ q, p.replay = .ok q ∧ q.OpenedOn o ∧ q.InStep := by
  obtain ⟨d, hd, hout, ho⟩ := h
  rw [replay, Session.keystroke_eq ho.isOpen]
  exact ⟨_, rfl, ⟨d, hd, hout, ho.entered _⟩, fun _ => Session.entered_text ..⟩

theorem typed_spec (h : p.Keeps o) :
    ∃ q, p.typed = .ok (.edited, q) ∧ q.OpenedOn o ∧ q.InStep := by
  obtain ⟨q, hq, ho, -⟩ := ensureOpen_spec h
  obtain ⟨r, hr, ho, hstep⟩ := replay_spec ho
  refine ⟨r, ?_, ho, hstep⟩
  rw [typed, hq]
  show (q.replay >>= _) = _
  rw [hr]
  rfl

theorem cancel_spec (h : p.Keeps o) :
    ∃ q, p.cancel = .ok (.cancelled, q) ∧ q.Idle ∧ q.document.outline = o ∧ q.line = {} := by
  obtain ⟨q, hq, hi, hout⟩ := withdraw_spec h
  refine ⟨{ q with line := {} }, ?_, hi.withLine {}, hout, rfl⟩
  rw [cancel, hq]
  rfl

/-! ## Key presses -/

/-- What a key press leaves behind, by what it has done: after `p`, which kept the outline `o`. -/
def Left (o : String) (p q : Prompt) : PromptEvent → Prop
  | .edited | .unchanged =>
    q.Keeps o ∧ q.InStep ∧ (p.session.isOpen = true → q.session.isOpen = true)
  | .confirmed | .applied => q.Idle ∧ q.line = {}
  | .cancelled => q.Idle ∧ q.document.outline = o ∧ q.line = {}
  | .quit => q.Idle ∧ q.document.outline = o

theorem left_edited (ho : q.OpenedOn o) (hstep : q.InStep) : Left o p q .edited :=
  ⟨.inr ho, hstep, fun _ => ho.isOpen⟩

theorem act_spec (h : p.Keeps o) (a : Action) :
    ∃ event q, p.act a = .ok (event, q) ∧ Left o p q event := by
  cases a with
  | quit =>
    obtain ⟨q, hq, hi, hout⟩ := withdraw_spec h
    refine ⟨.quit, q, ?_, hi, hout⟩
    rw [act, hq]
    rfl
  | confirm =>
    obtain ⟨q, hq, hi, hline⟩ := settle_spec h
    refine ⟨.confirmed, q, ?_, hi, hline⟩
    rw [act, hq]
    rfl
  | cancel =>
    obtain ⟨q, hq, hleft⟩ := cancel_spec h
    exact ⟨.cancelled, q, hq, hleft⟩
  | rebuild =>
    rcases h with ⟨hi, hout⟩ | ⟨d, hd, hout, ho⟩
    · have hi' : Idle { p with session := p.session.rebuild } := ⟨hi.closed, hi.valid⟩
      refine ⟨.unchanged, _, ?_, .inl ⟨hi', hout⟩, hi'.inStep, id⟩
      simp only [act, hi'.closed]
      rfl
    · have ho' : p.session.rebuild.Opened d p.document := ⟨ho.isOpen, ho.openedWith, ho.undoable⟩
      obtain ⟨q, hq, ho'', hstep'⟩ := replay_spec
        (p := { p with session := p.session.rebuild }) ⟨d, hd, hout, ho'⟩
      refine ⟨.edited, q, ?_, left_edited ho'' hstep'⟩
      simp only [act, ho'.isOpen, if_true, hq]
      rfl
  | selectAll =>
    obtain ⟨q, hq, hi, hline⟩ := settle_spec h
    set e := q.document.selectGraph (q.document.anchor?.elim .root (·.2.graph))
    have hall : ∃ k, q.session.selectAll q.document = .ok (k, e) := by
      rw [Session.selectAll, hi.closed]
      exact ⟨_, rfl⟩
    obtain ⟨k, hk⟩ := hall
    refine ⟨.applied, { q with document := e }, ?_, ⟨hi.closed, hi.valid.setSelection _⟩, hline⟩
    rw [act, hq]
    show (q.session.selectAll q.document >>= _) = _
    rw [hk]
    rfl
  | connectSelection =>
    obtain ⟨q, hq, hi, hline⟩ := settle_spec h
    set e := (wireChain q.document.selectedAcross q.document).2
    have hv : e.Valid := (wireChain_makes q.document.selectedAcross q.document).valid hi.valid
    have hall : ∃ k s, q.session.connectSelection q.document = .ok (k, s, e) ∧
        s.isOpen = false := by
      rw [Session.connectSelection, hi.closed]
      exact ⟨_, _, rfl, hi.closed⟩
    obtain ⟨k, s, hk, hs⟩ := hall
    refine ⟨.applied, { q with session := s, document := e }, ?_, ⟨hs, hv⟩, hline⟩
    rw [act, hq]
    show (q.session.connectSelection q.document >>= _) = _
    rw [hk]
    rfl

/-- A key press never fails. -/
theorem press_spec (h : p.Keeps o) (hstep : p.InStep) (m : Keymap) (k : KeyPress) :
    ∃ event q, p.press m k = .ok (event, q) ∧ Left o p q event := by
  rw [press]
  split
  · exact act_spec h _
  · rename_i c hc
    obtain ⟨q, hq, ho, hs⟩ := typed_spec (h.withLine (p.line.insert c))
    exact ⟨.edited, q, hq, left_edited ho hs⟩
  · rename_i key hkey
    dsimp only
    split
    · obtain ⟨q, hq, ho, hs⟩ := typed_spec (h.withLine (p.line.edit key))
      exact ⟨.edited, q, hq, left_edited ho hs⟩
    · rename_i hk
      refine ⟨.unchanged, _, rfl, h.withLine _, fun hopen => ?_, id⟩
      exact (hstep hopen).trans (PromptLine.text_edit (Bool.eq_false_iff.2 hk)).symm
  · exact ⟨.unchanged, p, rfl, h, hstep, id⟩

end Prompt

end GraphDraft
