import GraphDraft.Proofs.Draft.Stacked
import GraphDraft.Proofs.Session.Preview

/-!
# Calls of a session

A session is called in any order, and refuses what does not fit (`Call.refusal?`). Between calls it
is either `Cleared`, with nothing noted and nothing remembered, or `Underway`: what was selected
when it was opened is still there, and the nodes that the line has created are stacked in the order
of the journal. Every call leads from one of the two to one of the two (`Orderly.after`), so a
session stays `Tidy` whatever is asked of it (`tidy_afterAll`).
-/

namespace GraphDraft

open Document Draft

namespace Session

/-- What a session can be asked for. -/
inductive Call where
  | activate
  | keystroke (text : String)
  | confirm
  | cancel
  | selectAll
  | connectSelection
  | rebuild

/-- What a call makes of a session and its document. -/
def call (s : Session) (d : Document) : Call → Except SessionError (Session × Document)
  | .activate => (s.activate d).map fun s => (s, d)
  | .keystroke text => s.keystroke text d
  | .confirm => s.confirm.map fun r => (r.2, d)
  | .cancel => (s.cancel d).map (·.2)
  | .selectAll => (s.selectAll d).map fun r => (s, r.2)
  | .connectSelection => (s.connectSelection d).map (·.2)
  | .rebuild => .ok (s.rebuild, d)

namespace Call

/-- The session and the document after a call. One that fails gives no others. -/
def after (c : Call) (s : Session) (d : Document) : Session × Document :=
  match s.call d c with
  | .ok r => r
  | .error _ => (s, d)

/-- The session and the document after some calls in order. -/
def afterAll : List Call → Session → Document → Session × Document
  | [], s, d => (s, d)
  | c :: cs, s, d => afterAll cs (c.after s d).1 (c.after s d).2

/-- The error with which a call is refused: a line belongs to an open session, and the selection is
dealt with while there is none. -/
def refusal? (c : Call) (isOpen : Bool) : Option SessionError :=
  match c with
  | keystroke _ | confirm | cancel => if isOpen then none else some .notOpen
  | activate | selectAll | connectSelection => if isOpen then some .alreadyOpen else none
  | rebuild => none

end Call

variable {s : Session} {d : Document}

/-! ## Refusals -/

/-- A call fails just if it is refused. -/
theorem call_eq_error_iff (s : Session) (d : Document) (c : Call) (err : SessionError) :
    s.call d c = .error err ↔ c.refusal? s.isOpen = some err := by
  cases c with
  | keystroke text =>
    cases hs : s.isOpen with
    | true => simp [call, Call.refusal?, keystroke_eq hs]
    | false => simp [call, Call.refusal?, keystroke, hs]
  | activate => cases hs : s.isOpen <;> simp [call, Call.refusal?, activate, hs, Except.map]
  | confirm => cases hs : s.isOpen <;> simp [call, Call.refusal?, confirm, hs, Except.map]
  | cancel => cases hs : s.isOpen <;> simp [call, Call.refusal?, cancel, hs, Except.map]
  | selectAll => cases hs : s.isOpen <;> simp [call, Call.refusal?, selectAll, hs, Except.map]
  | connectSelection =>
    cases hs : s.isOpen <;> simp [call, Call.refusal?, connectSelection, hs, Except.map]
  | rebuild => simp [call, Call.refusal?]

theorem after_of_error {c : Call} {err : SessionError} (h : s.call d c = .error err) :
    c.after s d = (s, d) := by
  rw [Call.after, h]

/-! ## Between calls -/

/-- No session is open, and nothing is left of earlier ones. -/
structure Cleared (s : Session) (d : Document) : Prop where
  isOpen : s.isOpen = false
  reachable : d.Reachable
  journal : s.journal = []
  stack : s.stack = []
  openedWith : s.openedWith = []

/-- A session was opened on a document of which everything is still there, and the nodes that the
line has created since are stacked. -/
structure Underway (s : Session) (d : Document) : Prop where
  opened : ∃ d₀ : Document, d₀.Valid ∧ s.Opened d₀ d ∧ d₀.Extends d₀.Foreign d
  stacked : (s.draft d).Stacked

def Orderly (s : Session) (d : Document) : Prop :=
  s.Cleared d ∨ s.Underway d

theorem cleared_new (config : Config) (sources : List Source) (h : d.Reachable) :
    (Session.new config sources).Cleared d :=
  ⟨rfl, h, rfl, rfl, rfl⟩

theorem Underway.isOpen (h : s.Underway d) : s.isOpen = true := by
  obtain ⟨d₀, -, ho, -⟩ := h.opened
  exact ho.isOpen

/-- A session that is given up or kept is cleared. -/
theorem cleared_close (s : Session) (h : d.Reachable) : s.close.Cleared d :=
  ⟨rfl, h, rfl, rfl, rfl⟩

theorem reachable_restart (s : Session) (h : d.Reachable) : (s.restart d).Reachable :=
  (h.rollback s.journal).run (.setSelection s.openedWith)

theorem underway_activated (s : Session) (h : d.Reachable) : (s.activated d).Underway d where
  opened := ⟨d, h.valid, opened_activated h.valid s, .refl d.Foreign d⟩
  stacked := stacked_start h _

/-- A line starts over with an empty journal and an empty stack. -/
theorem Underway.entered (h : s.Underway d) (text : String) :
    (s.entered text (s.restart d)).1.Underway (s.entered text (s.restart d)).2 := by
  obtain ⟨d₀, hd₀, ho, -⟩ := h.opened
  refine ⟨⟨d₀, hd₀, ho.entered text, (ho.entered_extending text).additions⟩, ?_⟩
  have hstart := reachable_restart s h.stacked.reachable
  rw [Session.entered]
  split
  · exact stacked_start hstart _
  · exact durable_stacked.runAll (stacked_start hstart {}) s.catalog (s.registry.intents text)

/-! ## Calls -/

theorem Orderly.after_refused (h : s.Orderly d) {c : Call} (hc : c.refusal? s.isOpen ≠ none) :
    (c.after s d).1.Orderly (c.after s d).2 := by
  obtain ⟨err, herr⟩ := Option.ne_none_iff_exists'.1 hc
  rw [after_of_error ((call_eq_error_iff s d c err).2 herr)]
  exact h

theorem Cleared.after (h : s.Cleared d) (c : Call) :
    (c.after s d).1.Orderly (c.after s d).2 := by
  have hopen := h.isOpen
  have hs : s.Orderly d := .inl h
  cases c with
  | activate =>
    right
    have hafter : Call.activate.after s d = (s.activated d, d) := by
      simp only [Call.after, call, activate_eq hopen, Except.map]
    rw [hafter]
    exact underway_activated s h.reachable
  | keystroke text => exact hs.after_refused (by simp [Call.refusal?, hopen])
  | confirm => exact hs.after_refused (by simp [Call.refusal?, hopen])
  | cancel => exact hs.after_refused (by simp [Call.refusal?, hopen])
  | selectAll =>
    left
    have hafter : Call.selectAll.after s d =
        (s, d.selectGraph (d.anchor?.elim .root (·.2.graph))) := by
      simp only [Call.after, call, selectAll, hopen, Except.map, Bool.false_eq_true, if_false]
    rw [hafter]
    exact { h with reachable := h.reachable.run (.selectGraph _) }
  | connectSelection =>
    left
    have hafter : Call.connectSelection.after s d =
        ({ s with journal := [] }, (wireChain d.selectedAcross d).2) := by
      simp only [Call.after, call, connectSelection, hopen, Except.map, Bool.false_eq_true,
        if_false]
      rfl
    rw [hafter]
    have hmade := h.reachable.makes (wireChain_makes d.selectedAcross d)
    exact ⟨hopen, hmade, rfl, h.stack, h.openedWith⟩
  | rebuild => exact .inl { h with }

theorem Underway.after (h : s.Underway d) (c : Call) :
    (c.after s d).1.Orderly (c.after s d).2 := by
  have hopen := h.isOpen
  have hd := h.stacked.reachable
  have hs : s.Orderly d := .inr h
  cases c with
  | activate => exact hs.after_refused (by simp [Call.refusal?, hopen])
  | keystroke text =>
    right
    have hafter : (Call.keystroke text).after s d = s.entered text (s.restart d) := by
      simp only [Call.after, call, keystroke_eq hopen]
    rw [hafter]
    exact h.entered text
  | confirm =>
    left
    have hafter : Call.confirm.after s d = (s.close, d) := by
      simp only [Call.after, call, confirm, hopen, Except.map, if_true]
    rw [hafter]
    exact cleared_close s hd
  | cancel =>
    left
    have hafter : Call.cancel.after s d = (s.close, s.restart d) := by
      simp only [Call.after, call, cancel, hopen, Except.map, if_true]
    rw [hafter]
    exact cleared_close s (reachable_restart s hd)
  | selectAll => exact hs.after_refused (by simp [Call.refusal?, hopen])
  | connectSelection => exact hs.after_refused (by simp [Call.refusal?, hopen])
  | rebuild =>
    right
    obtain ⟨d₀, hd₀, ho, hext⟩ := h.opened
    exact ⟨⟨d₀, hd₀, ⟨ho.isOpen, ho.openedWith, ho.undoable⟩, hext⟩, h.stacked⟩

theorem Orderly.after (h : s.Orderly d) (c : Call) : (c.after s d).1.Orderly (c.after s d).2 := by
  rcases h with h | h
  · exact h.after c
  · exact h.after c

theorem Orderly.afterAll (h : s.Orderly d) (cs : List Call) :
    (Call.afterAll cs s d).1.Orderly (Call.afterAll cs s d).2 := by
  induction cs generalizing s d with
  | nil => exact h
  | cons c cs ih => exact ih (h.after c)

/-! ## What is known between calls -/

/-- What is known of a session and its document, be it open or not. -/
structure Tidy (s : Session) (d : Document) : Prop where
  refuses : ∀ c err, s.call d c = .error err ↔ c.refusal? s.isOpen = some err
  /-- What is refused changes nothing. -/
  refused : ∀ c err, s.call d c = .error err → c.after s d = (s, d)
  closed : s.isOpen = false → s.journal = [] ∧ s.stack = [] ∧ s.openedWith = []
  stack_nodup : s.stack.Nodup
  stack_live : ∀ n ∈ s.stack, d.nodes.contains n = true
  /-- The nodes on the stack are noted as created, in the order of the journal. -/
  stack_noted : s.stack.Sublist s.journal.created
  openedWith_live : ∀ n ∈ s.openedWith, d.nodes.contains n = true

theorem Orderly.tidy (h : s.Orderly d) : s.Tidy d where
  refuses := call_eq_error_iff s d
  refused _ _ := after_of_error
  closed hs := by
    rcases h with h | h
    · exact ⟨h.journal, h.stack, h.openedWith⟩
    · rw [h.isOpen] at hs
      cases hs
  stack_nodup := by
    rcases h with h | h
    · rw [h.stack]
      exact List.nodup_nil
    · exact h.stacked.once.sublist h.stacked.stack
  stack_live n hn := by
    rcases h with h | h
    · rw [h.stack] at hn
      cases hn
    · exact h.stacked.live n (h.stacked.stack.subset hn)
  stack_noted := by
    rcases h with h | h
    · rw [h.stack]
      exact List.nil_sublist _
    · exact h.stacked.stack
  openedWith_live n hn := by
    rcases h with h | h
    · rw [h.openedWith] at hn
      cases hn
    · obtain ⟨d₀, hd₀, ho, hext⟩ := h.opened
      rw [ho.openedWith] at hn
      exact hext.contains_node (contains_node_iff.2 (hd₀.selected n hn))

/-- However a new session is called on a document, it stays tidy. -/
theorem tidy_afterAll (config : Config) (sources : List Source) (hd : d.Reachable)
    (cs : List Call) :
    let r := Call.afterAll cs (Session.new config sources) d
    r.1.Tidy r.2 :=
  (Orderly.afterAll (.inl (cleared_new config sources hd)) cs).tidy

/-- Calls some of which are refused. The last line goes up from one of its two nodes. -/
theorem tidy_afterAll_empty :
    let r := Call.afterAll
      [.confirm, .activate, .selectAll, .keystroke "subgraph:a", .connectSelection, .rebuild,
        .keystroke "subgraph:a subgraph:b up:"] (Session.new .standard []) (.empty "Main")
    r.1.Tidy r.2 :=
  tidy_afterAll .standard [] ⟨"Main", [], rfl⟩ _

end Session

end GraphDraft
