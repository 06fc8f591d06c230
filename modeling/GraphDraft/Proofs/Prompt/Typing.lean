import GraphDraft.Batch
import GraphDraft.Proofs.Prompt.Line
import GraphDraft.Proofs.Session.Cancel
import GraphDraft.Prompt.Basic

/-!
# Typing lines at a prompt

What is typed at the end of a line is appended to it, whatever clusters it forms with what is there
(`PromptLine.insert_atEnd`). So the keys of a line make a session go through the texts that a batch
gives it, one character more each time, and the key that confirms keeps the last one: a prompt and a
batch come to the same document (`pressEach_eq_run`). The prompt opens no session for an empty line,
which the batch does; that makes no difference to the document, nor to the sessions after it.
-/

namespace GraphDraft

/-! ## The end of a line -/

namespace PromptLine

/-- The cursor stands behind the text. -/
def AtEnd (l : PromptLine) : Prop :=
  l.cursor = Text.clusterCount l.text

theorem atEnd_empty : AtEnd {} := rfl

/-- A character typed at the end of a line goes there, and the cursor stays behind it. -/
theorem insert_atEnd {l : PromptLine} (h : l.AtEnd) (c : Char) :
    (l.insert c).text = String.ofList (l.text.toList ++ [c]) ∧ (l.insert c).AtEnd := by
  have hsides : l.sides = (l.text.toList, []) := by
    rw [sides, h]
    exact Text.splitClusters_clusterCount l.text
  have htext : (l.insert c).text = String.ofList (l.text.toList ++ [c]) := by
    simp only [insert, hsides]
  refine ⟨htext, ?_⟩
  have hgrown := Text.length_clusters_concat l.text.toList c
  rw [AtEnd, cursor_insert, h, htext]
  simp only [Text.clusterCount, String.toList_ofList]
  split
  · omega
  · omega

end PromptLine

/-! ## Keys -/

/-- The keys that spell a line. -/
def KeyPress.spelling (line : String) : List KeyPress :=
  line.toList.map fun c => .ofKey (.char c)

/-- A character without modifiers is typed, unless its key is bound. -/
theorem Keymap.gesture_char {m : Keymap} {c : Char} (h : m.bindings.get? (.char c) = none) :
    m.gesture (.ofKey (.char c)) = .insert c := by
  simp [gesture, KeyPress.ofKey, Key.folded, h]

namespace Prompt

/-- Presses keys in order. -/
def pressEach (m : Keymap) : List KeyPress → Prompt → Except SessionError Prompt
  | [], p => .ok p
  | k :: ks, p => do
    let (_, p) ← p.press m k
    pressEach m ks p

/-- The keys that spell lines, each followed by the key that confirms it. -/
def entering (confirm : KeyPress) (lines : List String) : List KeyPress :=
  lines.flatMap fun line => KeyPress.spelling line ++ [confirm]

theorem pressEach_append (m : Keymap) (ks js : List KeyPress) (p : Prompt) :
    pressEach m (ks ++ js) p = (pressEach m ks p).bind (pressEach m js) := by
  induction ks generalizing p with
  | nil => rfl
  | cons k ks ih =>
    simp only [List.cons_append, pressEach]
    cases p.press m k with
    | error err => rfl
    | ok r => exact ih r.2

end Prompt

/-! ## Sessions that are alike -/

namespace Session

/-- Two closed sessions that differ in what is left of earlier lines at most. -/
structure Alike (s t : Session) : Prop where
  closed : s.isOpen = false
  closed' : t.isOpen = false
  config : s.config = t.config
  sources : s.sources = t.sources
  catalog : s.catalog = t.catalog
  registry : s.registry = t.registry

variable {s t : Session} {d : Document}

theorem Alike.refl (h : s.isOpen = false) : s.Alike s :=
  ⟨h, h, rfl, rfl, rfl, rfl⟩

/-- Nothing is left of earlier lines once a session has been opened. -/
theorem Alike.activated (h : s.Alike t) (d : Document) : s.activated d = t.activated d := by
  unfold Session.activated emptyHint
  rw [h.config, h.sources, h.catalog, h.registry]

theorem Alike.close_activated (h : s.Alike t) (d : Document) : (s.activated d).close.Alike t :=
  ⟨rfl, h.closed', h.config, h.sources, h.catalog, h.registry⟩

end Session

/-- A batch keeps what a line has come to. -/
theorem Batch.runLine_keep {s u : Session} {d e : Document} {line : String} (hs : s.isOpen = false)
    (htype : Batch.type [] line.toList (s.activated d, d) = .ok (u, e)) (hu : u.isOpen = true) :
    ∃ rows, Batch.runLine false line (s, d) = .ok (rows, u.close, e) := by
  refine ⟨Batch.report line d.outline u e ++
    ["  confirmed, " ++ toString u.journal.length ++ " changes kept"], ?_⟩
  show (s.activate d >>= _) = _
  rw [Session.activate_eq hs]
  show (Batch.type [] line.toList (s.activated d, d) >>= _) = _
  rw [htype]
  show (u.confirm >>= _) = _
  rw [Session.confirm, if_pos hu]
  rfl

namespace Prompt

variable {m : Keymap} {s t : Session} {d : Document} {l : PromptLine}

/-! ## One line -/

/-- A character typed into an open session runs the line with it. -/
theorem press_char (hm : ∀ c, m.bindings.get? (.char c) = none) (hs : s.isOpen = true) (c : Char) :
    press m ⟨s, d, l⟩ (.ofKey (.char c)) =
      (s.keystroke (l.insert c).text d).map fun x => (.edited, ⟨x.1, x.2, l.insert c⟩) := by
  rw [press, Keymap.gesture_char (hm c)]
  simp only [typed, ensureOpen, hs, if_true]
  show ((s.keystroke (l.insert c).text d >>= _) >>= _) = _
  cases s.keystroke (l.insert c).text d <;> rfl

/-- The first character opens a session. -/
theorem press_char_closed (hm : ∀ c, m.bindings.get? (.char c) = none) (hs : s.isOpen = false)
    (c : Char) :
    press m ⟨s, d, l⟩ (.ofKey (.char c)) = press m ⟨s.activated d, d, l⟩ (.ofKey (.char c)) := by
  rw [press, press, Keymap.gesture_char (hm c)]
  have hopen : ensureOpen ⟨s, d, l.insert c⟩ = ensureOpen ⟨s.activated d, d, l.insert c⟩ := by
    simp only [ensureOpen, hs, s.isOpen_activated d, Session.activate_eq hs d]
    rfl
  simp only [typed, hopen]

/-- Keys give an open session the texts that a batch gives it. The induction is on the characters
that are still to be typed; the cursor stays at the end of those that have been. -/
theorem pressEach_chars (hm : ∀ c, m.bindings.get? (.char c) = none) (cs : List Char)
    (hs : s.isOpen = true) (hl : l.AtEnd) :
    ∃ t e k, t.isOpen = true ∧ Batch.type l.text.toList cs (s, d) = .ok (t, e) ∧
      pressEach m (cs.map fun c => .ofKey (.char c)) ⟨s, d, l⟩ = .ok ⟨t, e, k⟩ := by
  induction cs generalizing s d l with
  | nil => exact ⟨s, d, l, hs, rfl, rfl⟩
  | cons c cs ih =>
    obtain ⟨htext, hend⟩ := PromptLine.insert_atEnd hl c
    obtain ⟨s₁, d₁, hkey, hs₁⟩ := Session.keystroke_open hs (l.insert c).text d
    obtain ⟨t, e, k, ht, hbatch, hpress⟩ := ih (d := d₁) hs₁ hend
    refine ⟨t, e, k, ht, ?_, ?_⟩
    · rw [htext, String.toList_ofList] at hbatch
      rw [htext] at hkey
      show (s.keystroke (String.ofList (l.text.toList ++ [c])) d >>= _) = _
      rw [hkey]
      exact hbatch
    · rw [List.map_cons, pressEach, press_char hm hs, hkey]
      exact hpress

theorem pressEach_confirm {confirm : KeyPress} (hk : m.gesture confirm = .act .confirm)
    (p : Prompt) : pressEach m [confirm] p = (p.act .confirm).map (·.2) := by
  have hpress : p.press m confirm = p.act .confirm := by
    rw [press, hk]
  rw [pressEach, hpress]
  cases p.act .confirm <;> rfl

theorem act_confirm_open (hs : s.isOpen = true) :
    act ⟨s, d, l⟩ .confirm = .ok (.confirmed, ⟨s.close, d, {}⟩) := by
  simp only [act, settle, hs, if_true, Session.confirm]
  rfl

theorem act_confirm_closed (hs : s.isOpen = false) :
    act ⟨s, d, l⟩ .confirm = .ok (.confirmed, ⟨s, d, {}⟩) := by
  simp only [act, settle, hs]
  rfl

/-- A batch and a prompt whose sessions are alike come to the same document by a line, and to
sessions that are alike. -/
theorem pressEach_line (hm : ∀ c, m.bindings.get? (.char c) = none) {confirm : KeyPress}
    (hk : m.gesture confirm = .act .confirm) (h : s.Alike t) (line : String) :
    ∃ rows s' t' e, Batch.runLine false line (s, d) = .ok (rows, s', e) ∧
      pressEach m (KeyPress.spelling line ++ [confirm]) ⟨t, d, {}⟩ = .ok ⟨t', e, {}⟩ ∧
      s'.Alike t' := by
  obtain ⟨u, e, k, hu, hbatch, hpress⟩ := pressEach_chars (d := d) hm line.toList
    (s.isOpen_activated d) PromptLine.atEnd_empty
  obtain ⟨rows, hrows⟩ := Batch.runLine_keep h.closed hbatch hu
  rw [pressEach_append, KeyPress.spelling]
  cases hline : line.toList with
  | nil =>
    -- The prompt opens no session, and the one of the batch closes as it was opened.
    rw [hline] at hbatch
    cases hbatch
    refine ⟨rows, (s.activated d).close, t, d, hrows, ?_, h.close_activated d⟩
    show pressEach m [confirm] ⟨t, d, {}⟩ = _
    rw [pressEach_confirm hk, act_confirm_closed h.closed']
    rfl
  | cons c cs =>
    rw [hline] at hpress
    have hfirst : pressEach m ((c :: cs).map fun c => .ofKey (.char c)) ⟨t, d, {}⟩ =
        .ok ⟨u, e, k⟩ := by
      rw [List.map_cons, pressEach, press_char_closed hm h.closed', ← h.activated]
      exact hpress
    refine ⟨rows, u.close, u.close, e, hrows, ?_, .refl rfl⟩
    rw [hfirst]
    show pressEach m [confirm] ⟨u, e, k⟩ = _
    rw [pressEach_confirm hk, act_confirm_open hu]
    rfl

/-! ## Lines -/

theorem pressEach_lines (hm : ∀ c, m.bindings.get? (.char c) = none) {confirm : KeyPress}
    (hk : m.gesture confirm = .act .confirm) (h : s.Alike t) (lines : List String) :
    ∃ rows s' t' e, Batch.runLines false lines (s, d) = .ok (rows, s', e) ∧
      pressEach m (entering confirm lines) ⟨t, d, {}⟩ = .ok ⟨t', e, {}⟩ ∧ s'.Alike t' := by
  induction lines generalizing s t d with
  | nil => exact ⟨[], s, t, d, rfl, rfl, h⟩
  | cons line lines ih =>
    obtain ⟨rows, s₁, t₁, e₁, hbatch, hpress, h₁⟩ := pressEach_line (d := d) hm hk h line
    obtain ⟨more, s₂, t₂, e₂, hbatch₂, hpress₂, h₂⟩ := ih (d := e₁) h₁
    refine ⟨rows ++ more, s₂, t₂, e₂, ?_, ?_, h₂⟩
    · rw [Batch.runLines, hbatch]
      show (Batch.runLines false lines (s₁, e₁) >>= _) = _
      rw [hbatch₂]
      rfl
    · rw [entering, List.flatMap_cons, pressEach_append, hpress]
      exact hpress₂

/-- Typing lines at a prompt, each with the key that confirms it, leads to the very document that a
batch of the lines leads to. No key of a character is bound. -/
theorem pressEach_eq_run (hs : s.isOpen = false) (hm : ∀ c, m.bindings.get? (.char c) = none)
    {confirm : KeyPress} (hk : m.gesture confirm = .act .confirm) (d : Document)
    (lines : List String) :
    ∃ report s' p, Batch.run false lines (s, d) = .ok (report, s', p.document) ∧
      pressEach m (entering confirm lines) ⟨s, d, {}⟩ = .ok p := by
  obtain ⟨rows, s', t', e, hbatch, hpress, -⟩ := pressEach_lines (d := d) hm hk (.refl hs) lines
  refine ⟨Text.unlines (rows ++ [""]) ++ e.outline, s', ⟨t', e, {}⟩, ?_, hpress⟩
  rw [Batch.run, hbatch]
  rfl

/-- A mark that joins the letter before it, an empty line, and a flag between two tokens. -/
theorem pressEach_eq_run_empty :
    (∀ c, (Keymap.bind {} .enter .confirm).bindings.get? (.char c) = none) ∧
      (Keymap.bind {} .enter .confirm).gesture (.ofKey .enter) = .act .confirm ∧
      ∃ report s' p,
        Batch.run false ["e\u0301 b", "", "a 🇫🇷 up:"]
            (Session.new .standard [], .empty "Main") =
          .ok (report, s', p.document) ∧
        pressEach (Keymap.bind {} .enter .confirm)
          (entering (.ofKey .enter) ["e\u0301 b", "", "a 🇫🇷 up:"])
          ⟨Session.new .standard [], .empty "Main", {}⟩ = .ok p :=
  ⟨fun _ => rfl, rfl, pressEach_eq_run rfl (fun _ => rfl) rfl (.empty "Main")
    ["e\u0301 b", "", "a 🇫🇷 up:"]⟩

end Prompt

end GraphDraft
