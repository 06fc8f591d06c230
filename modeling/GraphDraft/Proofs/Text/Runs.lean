import GraphDraft.Text.Blank
import Mathlib.Data.List.TakeWhile
import Mathlib.Data.List.Nodup

/-!
# Maximal runs

`runs` cuts a text into its maximal runs of characters that are not blank. A `Span` is a piece of a
text together with what stands before it. Some spans are the maximal runs of a text if they are just
those, from left to right (`ListsRuns`); a text has one such list (`ListsRuns.unique`), and `runs`
gives its pieces (`runs_eq`, `listsRuns_spans`).
-/

namespace GraphDraft.Text

/-! ## Joining lines -/

theorem runsFrom_append_blank (cs : List Char) {b : Char} (hb : isBlank b = true)
    (ds : List Char) :
    runsFrom (cs ++ b :: ds) = ((runsFrom cs).1, (runsFrom cs).2 ++ runs ds) := by
  induction cs with
  | nil => simp [runsFrom, runs, hb]
  | cons c cs ih =>
    rw [List.cons_append, runsFrom, ih, runsFrom]
    obtain ⟨run, later⟩ := runsFrom cs
    cases isBlank c <;> cases run <;> simp

/-- A blank ends a run. -/
theorem runs_append_blank (cs : List Char) {b : Char} (hb : isBlank b = true) (ds : List Char) :
    runs (cs ++ b :: ds) = runs cs ++ runs ds := by
  rw [runs, runsFrom_append_blank cs hb ds]
  simp only [runs]
  cases (runsFrom cs).1 <;> simp

theorem runsFrom_of_blank {cs : List Char} (h : ∀ c ∈ cs, isBlank c = true) :
    runsFrom cs = ([], []) := by
  induction cs with
  | nil => rfl
  | cons c cs ih =>
    have hc : isBlank c = true := h c List.mem_cons_self
    rw [runsFrom, ih fun d hd => h d (List.mem_cons_of_mem c hd)]
    simp [hc]

theorem isBlank_of_trim {cs : List Char} (h : trim cs = []) : ∀ c ∈ cs, isBlank c = true := by
  have hrest : (cs.dropWhile isBlank).reverse.dropWhile isBlank = [] := by
    simpa [trim] using h
  rw [List.dropWhile_eq_nil_iff] at hrest
  intro c hc
  rw [← List.takeWhile_append_dropWhile (p := isBlank) (l := cs)] at hc
  rcases List.mem_append.1 hc with hc | hc
  · exact List.mem_takeWhile_imp hc
  · exact hrest c (List.mem_reverse.2 hc)

theorem runs_of_trim {cs : List Char} (h : trim cs = []) : runs cs = [] := by
  rw [runs, runsFrom_of_blank (isBlank_of_trim h)]
  rfl

/-! ## Where runs stand -/

/-- A piece of a text: the characters before it, and its own. -/
structure Span where
  before : List Char
  chars : List Char

/-- The piece is a maximal run of characters that are not blank: it has some, and what stands next
to it on either side, if anything, is blank. -/
structure Span.IsRun (cs : List Char) (s : Span) : Prop where
  ne_nil : s.chars ≠ []
  solid : ∀ c ∈ s.chars, isBlank c = false
  left : ∀ b ∈ s.before.getLast?, isBlank b = true
  right : ∃ after, s.before ++ s.chars ++ after = cs ∧ ∀ b ∈ after.head?, isBlank b = true

/-- The pieces are the maximal runs of a text, from left to right. -/
structure ListsRuns (cs : List Char) (ss : List Span) : Prop where
  mem_iff : ∀ s, s ∈ ss ↔ s.IsRun cs
  ordered : ss.Pairwise fun s t => s.before.length < t.before.length

/-- The same runs, listed from left to right twice. -/
theorem ListsRuns.unique {cs : List Char} {ss ts : List Span} (hs : ListsRuns cs ss)
    (ht : ListsRuns cs ts) : ss = ts := by
  have hnodup : ∀ {us : List Span}, ListsRuns cs us → us.Nodup := fun hu =>
    hu.ordered.imp fun {s t} (hlt : s.before.length < t.before.length) hst =>
      Nat.lt_irrefl _ (hst ▸ hlt)
  have hperm : ss.Perm ts := (List.perm_ext_iff_of_nodup (hnodup hs) (hnodup ht)).2 fun s => by
    rw [hs.mem_iff, ht.mem_iff]
  exact hperm.eq_of_pairwise (fun s t _ _ hst hts => absurd hst (Nat.lt_asymm hts)) hs.ordered
    ht.ordered

/-- The piece of a text that has one more character in front. -/
def Span.shift (c : Char) (s : Span) : Span :=
  ⟨c :: s.before, s.chars⟩

/-- The run at the start, if there is one. -/
def frontSpans (cs : List Char) : List Span :=
  match cs.takeWhile (!isBlank ·) with
  | [] => []
  | run => [⟨[], run⟩]

/-- The runs that do not stand at the start. -/
def laterSpans : List Char → List Span
  | [] => []
  | c :: cs => ((if isBlank c then frontSpans cs else []) ++ laterSpans cs).map (Span.shift c)

/-- The maximal runs of a text with their places. -/
def spans (cs : List Char) : List Span :=
  frontSpans cs ++ laterSpans cs

/-! ## The pieces of the list -/

theorem fst_runsFrom (cs : List Char) : (runsFrom cs).1 = cs.takeWhile (!isBlank ·) := by
  induction cs with
  | nil => rfl
  | cons c cs ih =>
    rw [runsFrom, List.takeWhile_cons, ← ih]
    cases isBlank c <;> rfl

theorem map_chars_frontSpans (cs : List Char) : (frontSpans cs).map (·.chars) =
    if (runsFrom cs).1.isEmpty then [] else [(runsFrom cs).1] := by
  rw [fst_runsFrom, frontSpans]
  cases cs.takeWhile (!isBlank ·) <;> rfl

theorem map_chars_laterSpans (cs : List Char) :
    (laterSpans cs).map (·.chars) = (runsFrom cs).2 := by
  induction cs with
  | nil => rfl
  | cons c cs ih =>
    have hshift : (·.chars) ∘ Span.shift c = (·.chars) := rfl
    rw [laterSpans, List.map_map, hshift, List.map_append, ih, runsFrom]
    cases isBlank c with
    | false => rfl
    | true =>
      rw [if_pos rfl, map_chars_frontSpans]
      obtain ⟨run, later⟩ := runsFrom cs
      cases run <;> rfl

/-- The pieces of the maximal runs. -/
theorem runs_eq (cs : List Char) : runs cs = (spans cs).map (·.chars) := by
  rw [spans, List.map_append, map_chars_frontSpans, map_chars_laterSpans, runs]
  obtain ⟨run, later⟩ := runsFrom cs
  cases run <;> rfl

/-! ## The members of the list -/

/-- A run at the start goes on up to the first blank. -/
theorem isRun_front_iff {cs w : List Char} :
    Span.IsRun cs ⟨[], w⟩ ↔ w ≠ [] ∧ w = cs.takeWhile (!isBlank ·) := by
  constructor
  · rintro ⟨hne, hsolid, -, after, rfl, hafter⟩
    refine ⟨hne, ?_⟩
    have hall : w.takeWhile (!isBlank ·) = w :=
      List.takeWhile_eq_self_iff.2 fun c hc => by simp [hsolid c hc]
    rw [List.nil_append, List.takeWhile_append, hall, if_pos rfl]
    cases after with
    | nil => simp
    | cons b after => simp [hafter b rfl]
  · rintro ⟨hne, rfl⟩
    refine ⟨hne, fun c hc => by simpa using List.mem_takeWhile_imp hc, by simp,
      cs.dropWhile (!isBlank ·), List.takeWhile_append_dropWhile, fun b hb => ?_⟩
    have hhead := List.head?_dropWhile_not (!isBlank ·) cs
    rw [Option.mem_def.1 hb] at hhead
    simpa using hhead

theorem mem_frontSpans {cs : List Char} {s : Span} :
    s ∈ frontSpans cs ↔ s.IsRun cs ∧ s.before = [] := by
  obtain ⟨before, w⟩ := s
  have hmem : (⟨before, w⟩ : Span) ∈ frontSpans cs ↔
      before = [] ∧ w ≠ [] ∧ w = cs.takeWhile (!isBlank ·) := by
    rw [frontSpans]
    split
    · rename_i hnil
      simp [hnil]
    · rename_i hne
      simp only [List.mem_singleton, Span.mk.injEq]
      exact and_congr_right fun _ => ⟨fun hw => ⟨hw ▸ hne, hw⟩, And.right⟩
  rw [hmem]
  constructor
  · rintro ⟨rfl, hw⟩
    exact ⟨isRun_front_iff.2 hw, rfl⟩
  · rintro ⟨hrun, rfl⟩
    exact ⟨rfl, isRun_front_iff.1 hrun⟩

/-- In front of a run at the start there has to be a blank. -/
theorem isRun_shift_iff {c : Char} {cs : List Char} {s : Span} :
    (s.shift c).IsRun (c :: cs) ↔ s.IsRun cs ∧ (s.before = [] → isBlank c = true) := by
  obtain ⟨before, w⟩ := s
  have hlast : (∀ b ∈ (c :: before).getLast?, isBlank b = true) ↔
      (∀ b ∈ before.getLast?, isBlank b = true) ∧ (before = [] → isBlank c = true) := by
    cases before with
    | nil => simp
    | cons d before => simp [List.getLast?_cons_cons]
  constructor
  · rintro ⟨hne, hsolid, hleft, after, hafter, hright⟩
    obtain ⟨hleft, hc⟩ := hlast.1 hleft
    exact ⟨⟨hne, hsolid, hleft, after, (List.cons.inj hafter).2, hright⟩, hc⟩
  · rintro ⟨⟨hne, hsolid, hleft, after, hafter, hright⟩, hc⟩
    exact ⟨hne, hsolid, hlast.2 ⟨hleft, hc⟩, after, congrArg (c :: ·) hafter, hright⟩

theorem mem_laterSpans {cs : List Char} {s : Span} :
    s ∈ laterSpans cs ↔ s.IsRun cs ∧ s.before ≠ [] := by
  induction cs generalizing s with
  | nil =>
    constructor
    · intro hs
      cases hs
    · rintro ⟨hrun, hne⟩
      obtain ⟨after, hafter, -⟩ := hrun.right
      simp_all
  | cons c cs ih =>
    rw [laterSpans, List.mem_map]
    constructor
    · rintro ⟨t, ht, rfl⟩
      refine ⟨isRun_shift_iff.2 ?_, List.cons_ne_nil _ _⟩
      rcases List.mem_append.1 ht with ht | ht
      · split at ht
        · rename_i hc
          exact ⟨(mem_frontSpans.1 ht).1, fun _ => hc⟩
        · cases ht
      · obtain ⟨hrun, hne⟩ := ih.1 ht
        exact ⟨hrun, fun hnil => absurd hnil hne⟩
    · rintro ⟨hrun, hne⟩
      obtain ⟨before, w⟩ := s
      cases before with
      | nil => exact absurd rfl hne
      | cons d before =>
        obtain ⟨after, hafter, -⟩ := hrun.right
        obtain rfl : d = c := (List.cons.inj hafter).1
        obtain ⟨hrun, hblank⟩ := isRun_shift_iff (s := ⟨before, w⟩).1 hrun
        refine ⟨⟨before, w⟩, List.mem_append.2 ?_, rfl⟩
        by_cases hnil : before = []
        · refine .inl ?_
          rw [if_pos (hblank hnil)]
          exact mem_frontSpans.2 ⟨hrun, hnil⟩
        · exact .inr (ih.2 ⟨hrun, hnil⟩)

theorem pairwise_frontSpans_append {cs : List Char} {ss : List Span}
    (hne : ∀ s ∈ ss, s.before ≠ [])
    (hs : ss.Pairwise fun s t => s.before.length < t.before.length) :
    (frontSpans cs ++ ss).Pairwise fun s t => s.before.length < t.before.length := by
  rw [frontSpans]
  split
  · exact hs
  · exact List.pairwise_cons.2 ⟨fun s hmem => List.length_pos_iff.2 (hne s hmem), hs⟩

theorem pairwise_laterSpans (cs : List Char) :
    (laterSpans cs).Pairwise fun s t => s.before.length < t.before.length := by
  induction cs with
  | nil => exact .nil
  | cons c cs ih =>
    refine List.pairwise_map.2 (List.Pairwise.imp (fun hlt => Nat.succ_lt_succ hlt) ?_)
    split
    · exact pairwise_frontSpans_append (fun s hs => (mem_laterSpans.1 hs).2) ih
    · exact ih

theorem listsRuns_spans (cs : List Char) : ListsRuns cs (spans cs) where
  mem_iff s := by
    rw [spans, List.mem_append, mem_frontSpans, mem_laterSpans, ← and_or_left]
    exact and_iff_left (em _)
  ordered := pairwise_frontSpans_append (fun s hs => (mem_laterSpans.1 hs).2)
    (pairwise_laterSpans cs)

/-! ## Joining runs -/

theorem runsFrom_of_solid {w : List Char} (hsolid : ∀ c ∈ w, isBlank c = false) :
    runsFrom w = (w, []) := by
  induction w with
  | nil => rfl
  | cons c w ih =>
    have hc : isBlank c = false := hsolid c List.mem_cons_self
    rw [runsFrom, ih fun d hd => hsolid d (List.mem_cons_of_mem c hd)]
    simp [hc]

theorem runs_of_solid {w : List Char} (hne : w ≠ []) (hsolid : ∀ c ∈ w, isBlank c = false) :
    runs w = [w] := by
  rw [runs, runsFrom_of_solid hsolid]
  simp [hne]

/-- Runs that are joined by a blank are the runs of what they are joined to. -/
theorem runs_intercalate {b : Char} (hb : isBlank b = true) : ∀ {ws : List (List Char)},
    (∀ w ∈ ws, w ≠ [] ∧ ∀ c ∈ w, isBlank c = false) → runs ([b].intercalate ws) = ws
  | [], _ => rfl
  | [w], h => by
    obtain ⟨hne, hsolid⟩ := h w List.mem_cons_self
    rw [List.intercalate_singleton, runs_of_solid hne hsolid]
  | w :: v :: ws, h => by
    obtain ⟨hne, hsolid⟩ := h w List.mem_cons_self
    have hrest := runs_intercalate hb fun u hu => h u (List.mem_cons_of_mem w hu)
    rw [List.intercalate_cons_cons, List.append_assoc, List.singleton_append,
      runs_append_blank w hb, runs_of_solid hne hsolid, hrest]
    rfl

end GraphDraft.Text
