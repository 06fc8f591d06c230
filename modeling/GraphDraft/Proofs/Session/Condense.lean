import GraphDraft.Proofs.Renaming.Outline
import GraphDraft.Proofs.Renaming.Rebase
import GraphDraft.Proofs.Renaming.Run
import GraphDraft.Proofs.Session.Cancel

/-!
# What sessions leave behind

Of a session that is confirmed only the last line counts, and of one that is cancelled nothing. A
script of sessions and the script that is left when everything else is taken out (`condense`) do not
hand out the same identities, but the documents that they lead to differ by a renaming only
(`Parallel.play`). Hence the outlines are equal, and so is all that is seen before a session is
confirmed (`play_condense`).
-/

namespace GraphDraft

open Document Draft

/-- A session from its opening to its end: the lines typed, each in place of the one before, and
whether the last one is confirmed. -/
structure Episode where
  lines : List String
  confirmed : Bool

/-- What there is to be seen of an open session: its line, if one was typed, and what the line has
given. -/
structure Sight where
  line : Option String
  hint : Option String
  output : List String
  changes : Nat

def Session.sight (s : Session) (line : Option String) : Sight where
  line := line
  hint := s.feedback.hint
  output := s.feedback.output
  changes := s.journal.length

/-- Plays a session; also gives what is seen just before it is confirmed. -/
def Episode.play (e : Episode) (s : Session) (d : Document) :
    Except SessionError (Session × Document × List Sight) := do
  let s ← s.activate d
  let (s, d) ← s.steps (e.lines.map .keystroke) d
  if e.confirmed then
    let (_, closed) ← s.confirm
    return (closed, d, [s.sight e.lines.getLast?])
  else
    let (_, s, d) ← s.cancel d
    return (s, d, [])

/-- The part of a session that counts: its last line, if it is confirmed. -/
def Episode.condense (e : Episode) : Option Episode :=
  if e.confirmed then e.lines.getLast?.map fun line => ⟨[line], true⟩ else none

namespace Session

/-- Plays sessions in order. -/
def play : List Episode → Session → Document → Except SessionError (Session × Document × List Sight)
  | [], s, d => .ok (s, d, [])
  | e :: es, s, d => do
    let (s, d, seen) ← e.play s d
    let (s, d, rest) ← play es s d
    return (s, d, seen ++ rest)

def condense (es : List Episode) : List Episode :=
  es.filterMap Episode.condense

variable {s t : Session} {d e : Document}

theorem steps_append (ts us : List Step) (s : Session) (d : Document) :
    steps (ts ++ us) s d = (steps ts s d).bind fun r => steps us r.1 r.2 := by
  induction ts generalizing s d with
  | nil => rfl
  | cons t ts ih =>
    simp only [List.cons_append, steps]
    cases s.step d t with
    | error err => rfl
    | ok r => exact ih r.1 r.2

/-! ## Typing -/

/-- `t` is the session `s`, opened on `d`, after some lines; nothing has been rebuilt. -/
structure Typing (s : Session) (d : Document) (t : Session) (e : Document) : Prop
    extends t.Opened d e where
  catalog : t.catalog = s.catalog
  registry : t.registry = s.registry
  later : d.Later e

theorem activate_typing (hd : d.Valid) (hs : s.isOpen = false) :
    ∃ t, s.activate d = .ok t ∧ t.restart d = d.touch ∧ s.Typing d t d := by
  have hsel : d.setSelection d.selection = d.touch := by
    rw [setSelection, liveOnce_eq_self hd.selection_nodup fun n hn =>
      contains_node_iff.2 (hd.selected n hn)]
  rw [activate, hs]
  refine ⟨_, rfl, hsel, ⟨by simp [isOpen], rfl, ⟨hd, .refl d⟩⟩, rfl, rfl, .refl d⟩

theorem entered_catalog (s : Session) (line : String) (d : Document) :
    (s.entered line d).1.catalog = s.catalog := by
  rw [entered]
  split <;> rfl

theorem entered_registry (s : Session) (line : String) (d : Document) :
    (s.entered line d).1.registry = s.registry := by
  rw [entered]
  split <;> rfl

theorem entered_later (s : Session) (line : String) (d : Document) :
    d.Later (s.entered line d).2 := by
  rw [entered]
  split
  · exact .refl d
  · exact (stable_later d).runAll (x := (s.restarted line).draft d) (.refl d) _ _

/-- Starting over is a change of the selection, at least. -/
theorem restart_later (s : Session) (h : d.Later e) : d.touch.Later (s.restart e) :=
  { h.rollback s.journal with revision := Nat.succ_le_succ (h.rollback s.journal).revision }

theorem later_touch (d : Document) : d.Later d.touch := (Later.refl d).touch

theorem Typing.entered (h : s.Typing d t e) (line : String) :
    s.Typing d (t.entered line (t.restart e)).1 (t.entered line (t.restart e)).2 where
  toOpened := h.toOpened.entered line
  catalog := (entered_catalog ..).trans h.catalog
  registry := (entered_registry ..).trans h.registry
  later := ((later_touch d).trans (t.restart_later h.later)).trans (entered_later ..)

theorem Typing.steps (h : s.Typing d t e) (lines : List String) :
    ∃ t' e', Session.steps (lines.map .keystroke) t e = .ok (t', e') ∧ s.Typing d t' e' := by
  induction lines generalizing t e with
  | nil => exact ⟨t, e, rfl, h⟩
  | cons line lines ih =>
    rw [List.map_cons, Session.steps, step, keystroke_eq h.isOpen]
    exact ih (h.entered line)

/-- The last line starts over from where the session was opened. -/
theorem Typing.steps_last (h : s.Typing d t e) {lines : List String} {last : String}
    (hlast : lines.getLast? = some last) :
    ∃ t' e', s.Typing d t' e' ∧ Session.steps (lines.map .keystroke) t e =
      .ok (t'.entered last (t'.restart e')) := by
  obtain ⟨t', e', hsteps, h'⟩ := h.steps lines.dropLast
  refine ⟨t', e', h', ?_⟩
  obtain ⟨init, rfl⟩ := List.getLast?_eq_some_iff.1 hlast
  rw [List.dropLast_concat] at hsteps
  rw [List.map_append, steps_append, hsteps]
  show Session.steps [.keystroke last] t' e' = _
  rw [Session.steps, step, keystroke_eq h'.isOpen]
  rfl

/-! ## Lines on renamed documents -/

variable {ρ : Renaming}

/-- A line gives the same on a renamed document. -/
theorem entered_rename (hcatalog : s.catalog = t.catalog) (hregistry : s.registry = t.registry)
    (ht : ρ.Tracks e) (line : String) :
    (s.entered line (e.rename ρ)).2 = (t.entered line e).2.rename ρ ∧
      ∀ l, (s.entered line (e.rename ρ)).1.sight l = (t.entered line e).1.sight l := by
  by_cases hblank : (Text.trim line.toList).isEmpty = true
  · rw [entered, if_pos hblank, entered, if_pos hblank]
    have hhint : s.emptyHint = t.emptyHint := by
      unfold emptyHint
      rw [hcatalog]
    refine ⟨rfl, fun l => ?_⟩
    show Sight.mk l (some s.emptyHint) [] 0 = Sight.mk l (some t.emptyHint) [] 0
    rw [hhint]
  · have hrun := runAll_rename (x := (t.restarted line).draft e) ht t.catalog
      (t.registry.intents line)
    have hdraft : (s.restarted line).draft (e.rename ρ) =
        ((t.restarted line).draft e).rename ρ := rfl
    rw [entered, if_neg hblank, entered, if_neg hblank, hcatalog, hregistry, hdraft, hrun]
    refine ⟨rfl, fun l => ?_⟩
    simp only [sight, resume, Draft.rename, List.length_map]

/-! ## Ends of sessions -/

section
variable {s₁ : Session} {lines : List String} (hact : s.activate d = .ok s₁)
  (hsteps : Session.steps (lines.map .keystroke) s₁ d = .ok (t, e)) (ht : t.isOpen = true)
include hact hsteps ht

theorem play_confirmed :
    Episode.play ⟨lines, true⟩ s d = .ok (t.close, e, [t.sight lines.getLast?]) := by
  rw [Episode.play, hact]
  show ((Session.steps (lines.map .keystroke) s₁ d) >>= _) = _
  rw [hsteps]
  show (t.confirm >>= _) = _
  rw [confirm, if_pos ht]
  rfl

theorem play_cancelled :
    Episode.play ⟨lines, false⟩ s d = .ok (t.close, t.restart e, []) := by
  rw [Episode.play, hact]
  show ((Session.steps (lines.map .keystroke) s₁ d) >>= _) = _
  rw [hsteps]
  show (t.cancel e >>= _) = _
  rw [cancel, if_pos ht]
  rfl

end

/-! ## Two runs side by side -/

/-- Closed sessions with the same catalog and verbs, one on a renaming of the other's document. -/
structure Parallel (s : Session) (d : Document) (t : Session) (e : Document) : Prop where
  closed : s.isOpen = false
  closed' : t.isOpen = false
  catalog : s.catalog = t.catalog
  registry : s.registry = t.registry
  valid : d.Valid
  valid' : e.Valid
  renamed : ∃ ρ : Renaming, ρ.Tracks e ∧ d = e.rename ρ

theorem Parallel.refl (hs : s.isOpen = false) (hd : d.Valid) : Parallel s d s d where
  closed := hs
  closed' := hs
  catalog := rfl
  registry := rfl
  valid := hd
  valid' := hd
  renamed := ⟨.identity, .identity d, (rename_identity d).symm⟩

theorem Parallel.outline (h : Parallel s d t e) : d.outline = e.outline := by
  obtain ⟨ρ, -, rfl⟩ := h.renamed
  exact outline_rename ρ e

/-- A session that is cancelled leaves nothing behind but later counters. -/
theorem Parallel.cancelled (h : Parallel s d t e) (lines : List String) :
    ∃ s' d', Episode.play ⟨lines, false⟩ s d = .ok (s', d', []) ∧ Parallel s' d' t e := by
  obtain ⟨s₁, hact, -, h₁⟩ := activate_typing h.valid h.closed
  obtain ⟨s₂, d₂, hsteps, h₂⟩ := h₁.steps lines
  obtain ⟨ρ, ht, rfl⟩ := h.renamed
  have hlater := (later_touch _).trans (s₂.restart_later h₂.later)
  refine ⟨s₂.close, s₂.restart d₂, play_cancelled hact hsteps h₂.isOpen, ?_⟩
  exact { h with
    closed := rfl
    catalog := h₂.catalog.trans h.catalog
    registry := h₂.registry.trans h.registry
    valid := h₂.restart_valid
    renamed := exists_rename_of_same h.valid' ht h₂.restart_same (h₂.selection_restart h.valid)
      hlater }

/-- Confirming a session in which nothing was typed changes nothing. -/
theorem Parallel.silent (h : Parallel s d t e) :
    ∃ s' v, Episode.play ⟨[], true⟩ s d = .ok (s', d, [v]) ∧ v.line = none ∧
      Parallel s' d t e := by
  obtain ⟨s₁, hact, -, h₁⟩ := activate_typing h.valid h.closed
  refine ⟨s₁.close, s₁.sight none, play_confirmed hact rfl h₁.isOpen, rfl, ?_⟩
  exact { h with
    closed := rfl
    catalog := h₁.catalog.trans h.catalog
    registry := h₁.registry.trans h.registry }

/-- Of the lines of a session that is confirmed only the last one counts. -/
theorem Parallel.typed (h : Parallel s d t e) {lines : List String} {last : String}
    (hlast : lines.getLast? = some last) :
    ∃ s' d' t' e' v, Episode.play ⟨lines, true⟩ s d = .ok (s', d', [v]) ∧
      Episode.play ⟨[last], true⟩ t e = .ok (t', e', [v]) ∧ v.line = some last ∧
      Parallel s' d' t' e' := by
  obtain ⟨s₁, hact, -, h₁⟩ := activate_typing h.valid h.closed
  obtain ⟨s₂, d₂, h₂, hsteps⟩ := h₁.steps_last hlast
  obtain ⟨t₁, hact', hrestart, k₁⟩ := activate_typing h.valid' h.closed'
  have hsteps' : Session.steps ([last].map .keystroke) t₁ e =
      .ok (t₁.entered last e.touch) := by
    rw [List.map_singleton, Session.steps, step, keystroke_eq k₁.isOpen, hrestart]
    rfl
  have hopen := h₂.entered last
  have hopen' := k₁.entered last
  rw [hrestart] at hopen'
  obtain ⟨ρ, ht, hd⟩ := h.renamed
  have hd' : e.touch.rename ρ = d.touch := by rw [hd, touch_rename]
  -- The last line starts over in both runs, in the one on a renaming of the other's document.
  obtain ⟨σ, hσ, hr⟩ : ∃ σ : Renaming, σ.Tracks e.touch ∧ s₂.restart d₂ = e.touch.rename σ := by
    refine exists_rename_of_same (ρ := ρ) h.valid'.touch (ht.later (later_touch e)) ?_ ?_ ?_
    · rw [hd']
      exact { h₂.restart_same with }
    · have hsel : d.selection = (e.touch.rename ρ).selection := by rw [hd']; rfl
      exact (h₂.selection_restart h.valid).trans hsel
    · rw [hd']
      exact s₂.restart_later h₂.later
  have hcatalog : s₂.catalog = t₁.catalog := (h₂.catalog.trans h.catalog).trans k₁.catalog.symm
  have hregistry : s₂.registry = t₁.registry :=
    (h₂.registry.trans h.registry).trans k₁.registry.symm
  obtain ⟨hdocument, hsight⟩ := entered_rename hcatalog hregistry hσ last
  rw [← hr] at hdocument hsight
  have hplay := play_confirmed (t := (s₂.entered last (s₂.restart d₂)).1)
    (e := (s₂.entered last (s₂.restart d₂)).2) hact hsteps hopen.isOpen
  have hplay' := play_confirmed (t := (t₁.entered last e.touch).1)
    (e := (t₁.entered last e.touch).2) hact' hsteps' hopen'.isOpen
  rw [hlast, hsight] at hplay
  refine ⟨_, _, _, _, _, hplay, hplay', rfl, ?_⟩
  exact {
    closed := rfl
    closed' := rfl
    catalog := hopen.catalog.trans (h.catalog.trans hopen'.catalog.symm)
    registry := hopen.registry.trans (h.registry.trans hopen'.registry.symm)
    valid := hopen.undoable.valid
    valid' := hopen'.undoable.valid
    renamed := ⟨σ, hσ.later (entered_later ..), hdocument⟩ }

/-! ## Scripts -/

theorem play_cons {x : Episode} {es : List Episode} {s₁ s₂ : Session} {d₁ d₂ : Document}
    {seen rest : List Sight} (hx : x.play s d = .ok (s₁, d₁, seen))
    (hes : Session.play es s₁ d₁ = .ok (s₂, d₂, rest)) :
    Session.play (x :: es) s d = .ok (s₂, d₂, seen ++ rest) := by
  rw [Session.play, hx]
  show (Session.play es s₁ d₁ >>= _) = _
  rw [hes]
  rfl

theorem condense_typed {lines : List String} {last : String} (hlast : lines.getLast? = some last)
    (es : List Episode) : condense (⟨lines, true⟩ :: es) = ⟨[last], true⟩ :: condense es := by
  simp [condense, Episode.condense, hlast]

theorem Parallel.play (h : Parallel s d t e) (es : List Episode) :
    ∃ s' d' t' e' seen, Session.play es s d = .ok (s', d', seen) ∧
      Session.play (condense es) t e = .ok (t', e', seen.filter (·.line.isSome)) ∧
      Parallel s' d' t' e' := by
  induction es generalizing s d t e with
  | nil => exact ⟨s, d, t, e, [], rfl, rfl, h⟩
  | cons x es ih =>
    obtain ⟨lines, confirmed⟩ := x
    cases confirmed with
    | false =>
      obtain ⟨s₁, d₁, hp, h₁⟩ := h.cancelled lines
      obtain ⟨s', d', t', e', seen, hs, ht, h'⟩ := ih h₁
      exact ⟨s', d', t', e', seen, play_cons hp hs, ht, h'⟩
    | true =>
      cases hlast : lines.getLast? with
      | none =>
        obtain rfl := List.getLast?_eq_none_iff.1 hlast
        obtain ⟨s₁, v, hp, hv, h₁⟩ := h.silent
        obtain ⟨s', d', t', e', seen, hs, ht, h'⟩ := ih h₁
        refine ⟨s', d', t', e', v :: seen, play_cons hp hs, ?_, h'⟩
        rw [List.filter_cons_of_neg (by simp [hv])]
        exact ht
      | some last =>
        obtain ⟨s₁, d₁, t₁, e₁, v, hp, hp', hv, h₁⟩ := h.typed hlast
        obtain ⟨s', d', t', e', seen, hs, ht, h'⟩ := ih h₁
        refine ⟨s', d', t', e', v :: seen, play_cons hp hs, ?_, h'⟩
        rw [condense_typed hlast, List.filter_cons_of_pos (by simp [hv])]
        exact play_cons hp' ht

/-- Playing a script or only what counts of it gives documents with the same outline, and the same
is seen just before each session is confirmed. -/
theorem play_condense (hd : d.Reachable) (hs : s.isOpen = false) (es : List Episode) :
    ∃ s₁ d₁ s₂ d₂ seen, Session.play es s d = .ok (s₁, d₁, seen) ∧
      Session.play (condense es) s d = .ok (s₂, d₂, seen.filter (·.line.isSome)) ∧
      d₁.outline = d₂.outline := by
  obtain ⟨s₁, d₁, s₂, d₂, seen, hplay, hcondensed, h⟩ := (Parallel.refl hs hd.valid).play es
  exact ⟨s₁, d₁, s₂, d₂, seen, hplay, hcondensed, h.outline⟩

/-- Of three sessions on an empty document, the last line of the first one counts. -/
theorem play_condense_empty :
    ∃ s₁ d₁ s₂ d₂ seen,
      Session.play [⟨["a", "subgraph:b"], true⟩, ⟨["c"], false⟩, ⟨[], true⟩] (.new .standard [])
        (.empty "Main") = .ok (s₁, d₁, seen) ∧
      Session.play [⟨["subgraph:b"], true⟩] (.new .standard []) (.empty "Main") =
        .ok (s₂, d₂, seen.filter (·.line.isSome)) ∧
      d₁.outline = d₂.outline :=
  play_condense ⟨"Main", [], rfl⟩ rfl [⟨["a", "subgraph:b"], true⟩, ⟨["c"], false⟩, ⟨[], true⟩]

end Session

end GraphDraft
