import GraphDraft.Proofs.LineDiff
import GraphDraft.Proofs.Prompt.Press
import GraphDraft.Terminal.Session

/-!
# The terminal prompt, event after event

A prompt in a terminal is sound (`TerminalPrompt.Sound`) when giving the line up leads back to the
outline that its preview is taken from, and an open session has the text of the line. Each event
keeps it so without failing (`handle_spec`), and so do all events in a row, also those that come
after one that asked to quit (`handleEach_spec`).
-/

namespace GraphDraft.Terminal.TerminalPrompt

open Document

variable {t : TerminalPrompt}

/-- Handles all events in order; also says whether one of them has asked to quit. -/
def handleEach : List Event → TerminalPrompt → Except SessionError (Bool × TerminalPrompt)
  | [], t => .ok (false, t)
  | e :: es, t => do
    let (quit, t) ← t.handle e
    let (later, t) ← handleEach es t
    return (quit || later, t)

/-- Giving the line up leads to the outline of the preview, and an open session has the text of the
line. -/
structure Sound (t : TerminalPrompt) : Prop where
  keeps : t.prompt.Keeps t.committed
  inStep : t.prompt.InStep

/-- A prompt with an empty line opens a session without text. -/
theorem reopen_spec (hi : t.prompt.Idle) (hline : t.prompt.line = {})
    (hout : t.prompt.document.outline = t.committed) :
    ∃ t', t.reopen = .ok t' ∧ t'.Sound ∧ t'.prompt.session.isOpen = true := by
  obtain ⟨s, hs, ho, htext⟩ := Prompt.ensureOpen_idle hi
  refine ⟨{ t with prompt := { t.prompt with session := s } }, ?_,
    ⟨.inr ⟨t.prompt.document, hi.valid, hout, ho⟩, fun _ => ?_⟩, ho.isOpen⟩
  · rw [reopen, hs]
    rfl
  · show s.text = t.prompt.line.text
    rw [htext, hline]

/-! ## Events -/

/-- What is left after a line was given up or kept opens again. -/
theorem reopened {t' : TerminalPrompt} (ht : t.reopen = .ok t') :
    (do return (false, ← t.reopen) : Except SessionError (Bool × TerminalPrompt)) =
      .ok (false, t') := by
  rw [ht]
  rfl

/-- An event never fails, keeps a prompt sound, and closes its session only by asking to quit. -/
theorem handle_spec (h : t.Sound) (e : Event) :
    ∃ quit t', t.handle e = .ok (quit, t') ∧ t'.Sound ∧
      (quit = false → t.prompt.session.isOpen = true → t'.prompt.session.isOpen = true) := by
  cases e with
  | input k =>
    obtain ⟨event, q, hq, hleft⟩ := Prompt.press_spec h.keeps h.inStep t.keymap k
    rw [handle, hq]
    cases event with
    | edited | unchanged => exact ⟨false, _, rfl, ⟨hleft.1, hleft.2.1⟩, fun _ => hleft.2.2⟩
    | confirmed | applied =>
      obtain ⟨t', ht, hs, hopen⟩ :=
        reopen_spec (t := ⟨q, t.keymap, q.document.outline⟩) hleft.1 hleft.2 rfl
      exact ⟨false, t', reopened ht, hs, fun _ _ => hopen⟩
    | cancelled =>
      obtain ⟨t', ht, hs, hopen⟩ :=
        reopen_spec (t := ⟨q, t.keymap, t.committed⟩) hleft.1 hleft.2.2 hleft.2.1
      exact ⟨false, t', reopened ht, hs, fun _ _ => hopen⟩
    | quit =>
      -- The session stays closed until something is typed or the line is given up or kept.
      exact ⟨true, _, rfl, ⟨.inl hleft, hleft.1.inStep⟩, nofun⟩
  | focusLost =>
    obtain ⟨q, hq, hi, hout, hline⟩ := Prompt.cancel_spec h.keeps
    obtain ⟨t', ht, hs, hopen⟩ := reopen_spec (t := ⟨q, t.keymap, t.committed⟩) hi hline hout
    rw [handle, hq]
    exact ⟨false, t', reopened ht, hs, fun _ _ => hopen⟩
  | resized columns rows => exact ⟨false, t, rfl, h, fun _ => id⟩
  | none => exact ⟨false, t, rfl, h, fun _ => id⟩

theorem handleEach_spec (h : t.Sound) (es : List Event) :
    ∃ quit t', handleEach es t = .ok (quit, t') ∧ t'.Sound ∧
      (quit = false → t.prompt.session.isOpen = true → t'.prompt.session.isOpen = true) := by
  induction es generalizing t with
  | nil => exact ⟨false, t, rfl, h, fun _ => id⟩
  | cons e es ih =>
    obtain ⟨quit, t₁, h₁, hs₁, hopen₁⟩ := handle_spec h e
    obtain ⟨later, t₂, h₂, hs₂, hopen₂⟩ := ih hs₁
    refine ⟨quit || later, t₂, ?_, hs₂, fun hquit hopen => ?_⟩
    · rw [handleEach, h₁]
      show (handleEach es t₁ >>= _) = _
      rw [h₂]
      rfl
    · obtain ⟨hquit, hlater⟩ := Bool.or_eq_false_iff.1 hquit
      exact hopen₂ hlater (hopen₁ hquit hopen)

/-! ## Any run -/

/-- Giving up the line of a sound prompt leaves nothing to preview. -/
theorem Sound.cancel (h : t.Sound) :
    ∃ p, t.prompt.cancel = .ok (.cancelled, p) ∧ p.document.outline = t.committed ∧
      (p.content t.committed).changes = [] := by
  obtain ⟨p, hp, -, hout, -⟩ := Prompt.cancel_spec h.keeps
  refine ⟨p, hp, hout, ?_⟩
  rw [Prompt.content, hout, diffLines_self]

/-- A prompt in a terminal never fails, whatever its keys and the events are: until an event asks to
quit its session is open, an open session has the text of the line, and giving the line up leads to
the outline that the preview is taken from, so that nothing is left to preview. -/
theorem handleEach_sound {d : Document} {s : Session} (hd : d.Reachable) (hs : s.isOpen = false)
    (m : Keymap) (es : List Event) :
    ∃ t₀ quit t, reopen ⟨⟨s, d, {}⟩, m, d.outline⟩ = .ok t₀ ∧ handleEach es t₀ = .ok (quit, t) ∧
      (quit = false → t.prompt.session.isOpen = true) ∧
      (t.prompt.session.isOpen = true → t.prompt.session.text = t.prompt.line.text) ∧
      ∃ p, t.prompt.cancel = .ok (.cancelled, p) ∧ p.document.outline = t.committed ∧
        (p.content t.committed).changes = [] := by
  obtain ⟨t₀, h₀, hs₀, hopen₀⟩ :=
    reopen_spec (t := ⟨⟨s, d, {}⟩, m, d.outline⟩) ⟨hs, hd.valid⟩ rfl rfl
  obtain ⟨quit, t, h, hs, hopen⟩ := handleEach_spec hs₀ es
  exact ⟨t₀, quit, t, h₀, h, fun hquit => hopen hquit hopen₀, hs.inStep, hs.cancel⟩

/-- A prompt that keeps a line, goes on with another one and loses the focus. -/
theorem handleEach_sound_empty :
    ∃ t₀ quit t,
      reopen ⟨⟨Session.new .standard [], .empty "Main", {}⟩, Keymap.bind {} .enter .confirm,
        (Document.empty "Main").outline⟩ = .ok t₀ ∧
      handleEach [.ofTyped 'a', .ofTyped '\n', .ofTyped 'b', .focusLost] t₀ = .ok (quit, t) ∧
      (quit = false → t.prompt.session.isOpen = true) ∧
      (t.prompt.session.isOpen = true → t.prompt.session.text = t.prompt.line.text) ∧
      ∃ p, t.prompt.cancel = .ok (.cancelled, p) ∧ p.document.outline = t.committed ∧
        (p.content t.committed).changes = [] :=
  handleEach_sound ⟨"Main", [], rfl⟩ rfl _ [.ofTyped 'a', .ofTyped '\n', .ofTyped 'b', .focusLost]

end GraphDraft.Terminal.TerminalPrompt
