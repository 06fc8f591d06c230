import GraphDraft.Proofs.Line
import GraphDraft.Proofs.Session.Condense

/-!
# Lines one after the other

Entering two lines as two sessions leads to the same document as entering them as one line
(`enter_append`), unless the second line goes up: only within a line can it be told which nodes were
created before. The second session starts one revision later, which is the only difference.
-/

namespace GraphDraft

open Document Draft

namespace Session

/-- Plays a session in which a line is given at once and confirmed; also gives the number of changes
that are kept. -/
def enter (s : Session) (line : String) (d : Document) :
    Except SessionError (Nat × Session × Document) := do
  let s ← s.activate d
  let (s, d) ← s.keystroke line d
  let (kept, s) ← s.confirm
  return (kept, s, d)

variable {s t : Session} {d e : Document}

/-- What a line makes of a document that a session has just been opened on. -/
def outcome (s : Session) (line : String) (d : Document) : Draft :=
  (runAll s.catalog (s.registry.intents line) ⟨d.touch, [], [], {}⟩).2

/-- Blank lines are no exception: they have no intents. -/
theorem entered_eq_runAll (s : Session) (line : String) (d : Document) :
    (s.entered line d).2 =
        (runAll s.catalog (s.registry.intents line) ⟨d, [], [], {}⟩).2.document ∧
      (s.entered line d).1.journal =
        (runAll s.catalog (s.registry.intents line) ⟨d, [], [], {}⟩).2.journal := by
  by_cases hblank : (Text.trim line.toList).isEmpty = true
  · rw [entered, if_pos hblank, s.registry.intents_of_trim (List.isEmpty_iff.1 hblank)]
    exact ⟨rfl, rfl⟩
  · rw [entered, if_neg hblank]
    exact ⟨rfl, rfl⟩

theorem enter_eq (hd : d.Valid) (hs : s.isOpen = false) (line : String) :
    ∃ t, s.enter line d = .ok ((s.outcome line d).journal.length, t, (s.outcome line d).document) ∧
      t.isOpen = false ∧ t.catalog = s.catalog ∧ t.registry = s.registry ∧
      (s.outcome line d).document.Valid := by
  obtain ⟨s₁, hact, hrestart, htyping⟩ := activate_typing hd hs
  have h₂ := htyping.entered line
  obtain ⟨hdoc, hjournal⟩ := entered_eq_runAll s₁ line (s₁.restart d)
  rw [hrestart, htyping.catalog, htyping.registry] at hdoc hjournal
  rw [hrestart] at h₂
  refine ⟨(s₁.entered line d.touch).1.close, ?_, rfl, h₂.catalog, h₂.registry, ?_⟩
  · rw [enter, hact]
    show (s₁.keystroke line d >>= _) = _
    rw [keystroke_eq htyping.isOpen, hrestart]
    show ((s₁.entered line d.touch).1.confirm >>= _) = _
    rw [confirm, if_pos h₂.isOpen, hjournal]
    show Except.ok (_, _, (s₁.entered line d.touch).2) = _
    rw [hdoc]
    rfl
  · exact hdoc ▸ h₂.undoable.valid

/-- A line does the same one revision later. -/
theorem runAll_touch (catalog : Catalog) (is : List Intent) (d : Document) :
    (runAll catalog is ⟨d.touch, [], [], {}⟩).2.document =
        (runAll catalog is ⟨d, [], [], {}⟩).2.document.touch ∧
      (runAll catalog is ⟨d.touch, [], [], {}⟩).2.journal.length =
        (runAll catalog is ⟨d, [], [], {}⟩).2.journal.length := by
  have htouch : ∀ d : Document, d.rename (.onward 0 0 0 1) = d.touch := by
    intro d
    rw [rename_onward]
    simp only [Nat.zero_add, Nat.add_comm 1]
    rfl
  have hrun := runAll_rename (x := ⟨d, [], [], {}⟩) (.onward 1 d) catalog is
  have hdraft : Draft.rename (.onward 0 0 0 1) ⟨d, [], [], {}⟩ = ⟨d.touch, [], [], {}⟩ := by
    rw [Draft.rename, htouch]
    rfl
  rw [← hdraft, hrun]
  exact ⟨htouch _, List.length_map _⟩

/-- Two lines in one give the same document, but for the revision, as one after the other, and the
changes that are kept add up. -/
theorem enter_append (hd : d.Reachable) (hs : s.isOpen = false) (l₁ l₂ : String)
    (hup : ∀ n, .goUp n ∉ s.registry.intents l₂) :
    ∃ k k₁ k₂ t t₁ t₂ e e₁ e₂, s.enter (l₁ ++ " " ++ l₂) d = .ok (k, t, e) ∧
      s.enter l₁ d = .ok (k₁, t₁, e₁) ∧ t₁.enter l₂ e₁ = .ok (k₂, t₂, e₂) ∧
      { e with revision := 0 } = { e₂ with revision := 0 } ∧ k = k₁ + k₂ := by
  obtain ⟨t, hboth, -⟩ := enter_eq hd.valid hs (l₁ ++ " " ++ l₂)
  obtain ⟨t₁, hfirst, hclosed, hcatalog, hregistry, hvalid⟩ := enter_eq hd.valid hs l₁
  obtain ⟨t₂, hsecond, -⟩ := enter_eq hvalid hclosed l₂
  refine ⟨_, _, _, t, t₁, t₂, _, _, _, hboth, hfirst, hsecond, ?_⟩
  have hbeside := runAll_beside s.catalog (s.registry.intents_append l₁ l₂) hup
    ⟨d.touch, [], [], {}⟩ {}
  obtain ⟨hdoc, hlength⟩ := runAll_touch s.catalog (s.registry.intents l₂)
    (s.outcome l₁ d).document
  have houtcome : t₁.outcome l₂ (s.outcome l₁ d).document =
      (runAll s.catalog (s.registry.intents l₂)
        ⟨(s.outcome l₁ d).document.touch, [], [], {}⟩).2 := by
    rw [outcome, hcatalog, hregistry]
  rw [houtcome, hdoc, hlength]
  have hrevision : ∀ x : Document, { x with revision := 0 } = { x.touch with revision := 0 } :=
    fun _ => rfl
  simp only [outcome]
  rw [hbeside.document, hbeside.journal, List.length_append]
  exact ⟨hrevision _, rfl⟩

/-- A line that creates a subgraph and one that defines a port of it. -/
theorem enter_append_empty :
    (∀ n, .goUp n ∉ (Session.new .standard []).registry.intents "valueinput:x") ∧
      ∃ k k₁ k₂ t t₁ t₂ e e₁ e₂,
        (Session.new .standard []).enter ("subgraph:a" ++ " " ++ "valueinput:x") (.empty "Main") =
          .ok (k, t, e) ∧
        (Session.new .standard []).enter "subgraph:a" (.empty "Main") = .ok (k₁, t₁, e₁) ∧
        t₁.enter "valueinput:x" e₁ = .ok (k₂, t₂, e₂) ∧
        { e with revision := 0 } = { e₂ with revision := 0 } ∧ k = k₁ + k₂ := by
  have hup : ∀ n, .goUp n ∉ (Session.new .standard []).registry.intents "valueinput:x" := by
    have hintents : (Session.new .standard []).registry.intents "valueinput:x" =
        [.addPort .valueInput "x"] := by decide +kernel
    simp [hintents]
  exact ⟨hup, enter_append ⟨"Main", [], rfl⟩ rfl "subgraph:a" "valueinput:x" hup⟩

end Session

end GraphDraft
