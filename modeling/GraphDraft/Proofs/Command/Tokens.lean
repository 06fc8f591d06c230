import GraphDraft.Proofs.Command.Verbs
import GraphDraft.Proofs.Text.Runs
import Mathlib.Data.List.Basic

/-!
# Reading a line back

Nothing but blanks is lost when a line is read. Its tokens spell its maximal runs, and the verb that
a token calls and the arguments that the token gives spell the token (`Registry.Reading`). So lines
with the same runs have the same tokens, and each token has one intent (`Registry.line_reads_back`).
-/

namespace GraphDraft

/-! ## Tokens -/

namespace Token

theorem run_ofRun (run : List Char) (isLast : Bool) : (ofRun run isLast).run = run := by
  cases run with
  | nil => rfl
  | cons c cs =>
    rw [ofRun]
    split
    · rename_i hc
      simp [Token.run, hc]
    · simp [Token.run]

/-- The marker is taken off just if it is there. -/
theorem attachLeft_ofRun (run : List Char) (isLast : Bool) :
    (ofRun run isLast).attachLeft = true ↔ leftMarker ∈ run.head? := by
  cases run with
  | nil => simp [ofRun]
  | cons c cs =>
    rw [ofRun]
    split
    · rename_i hc
      simp [hc]
    · rename_i hc
      simpa using hc

theorem isLast_ofRun (run : List Char) (isLast : Bool) : (ofRun run isLast).isLast = isLast := by
  cases run with
  | nil => rfl
  | cons c cs =>
    rw [ofRun]
    split <;> rfl

theorem map_run_ofRuns (rs : List (List Char)) : (ofRuns rs).map Token.run = rs := by
  induction rs with
  | nil => rfl
  | cons r rs ih => rw [ofRuns, List.map_cons, run_ofRun, ih]

theorem getElem?_ofRuns : ∀ (rs : List (List Char)) (k : Nat),
    (ofRuns rs)[k]? = rs[k]?.map (ofRun · (decide (k + 1 = rs.length)))
  | [], k => by simp [ofRuns]
  | r :: rs, 0 => by
    cases rs <;> simp [ofRuns]
  | r :: rs, k + 1 => by
    rw [ofRuns, List.getElem?_cons_succ, getElem?_ofRuns rs k, List.getElem?_cons_succ]
    simp

end Token

/-! ## Arguments -/

theorem splitArguments_eq_splitOn (separator : Char) (cs : List Char) :
    splitArguments separator cs = cs.splitOn separator := by
  induction cs with
  | nil => rfl
  | cons c cs ih =>
    rw [List.splitOn, List.splitOnP_cons_eq_if_modifyHead, ← List.splitOn, splitArguments, ih]
    by_cases hc : c = separator
    · simp [hc]
    · rw [if_neg hc, if_neg (by simpa using hc)]
      cases hsplit : cs.splitOn separator with
      | nil => exact absurd hsplit (List.splitOnP_ne_nil _ _)
      | cons a as => rfl

/-- The arguments in a text, with the separators between them, are the text. -/
theorem intercalate_argumentsOf (text : String) :
    (String.singleton argumentSeparator).intercalate (argumentsOf text) = text := by
  refine String.toList_injective ?_
  rw [String.toList_intercalate, argumentsOf, splitArguments_eq_splitOn, List.map_map]
  simp [Function.comp_def]

theorem argumentsOf_ne_nil (text : String) : argumentsOf text ≠ [] := by
  rw [argumentsOf, splitArguments_eq_splitOn]
  simp

theorem not_mem_of_mem_splitArguments {separator : Char} {cs : List Char} :
    ∀ a ∈ splitArguments separator cs, separator ∉ a := by
  induction cs with
  | nil => simp [splitArguments]
  | cons c cs ih =>
    rw [splitArguments]
    split
    · simpa using ih
    · rename_i hc
      split
      · simpa using Ne.symm hc
      · rename_i a as hsplit
        rw [hsplit, List.forall_mem_cons] at ih
        rw [List.forall_mem_cons]
        refine ⟨fun hmem => ?_, ih.2⟩
        rcases List.mem_cons.1 hmem with he | hmem
        · exact hc he.symm
        · exact ih.1 hmem

/-- No argument has a separator in it. -/
theorem not_mem_of_mem_argumentsOf {text a : String} (ha : a ∈ argumentsOf text) :
    argumentSeparator ∉ a.toList := by
  obtain ⟨cs, hcs, rfl⟩ := List.mem_map.1 ha
  rw [String.toList_ofList]
  exact not_mem_of_mem_splitArguments cs hcs

namespace Registry

variable {r : Registry}

/-- What a token has of the verb that it calls: nothing if that is the fallback verb. -/
def spelled (r : Registry) (f : Found) : String :=
  if f.verb = r.fallback then "" else f.verb

/-- A token, read as a verb and arguments: there is some argument, none has a separator in it, and
the verb and the arguments with separators between them spell the token. -/
structure Reading (r : Registry) (t : Token) (f : Found) (arguments : List String) : Prop where
  called : r.lookup t.text = some f
  some_argument : arguments ≠ []
  apart : ∀ a ∈ arguments, argumentSeparator ∉ a.toList
  text_eq : r.spelled f ++ (String.singleton argumentSeparator).intercalate arguments = t.text

/-- A token leaves its arguments whatever it does not spend on its verb. -/
theorem spelled_append_rest (h : r.Built) {text : String} {f : Found}
    (hf : r.lookup text = some f) : r.spelled f ++ f.rest = text := by
  rcases answers_lookup (built_iff.1 h) text with ⟨g, hg, hlongest⟩ | ⟨-, hwhole⟩
  · cases hf.symm.trans hg
    rw [spelled, if_neg hlongest.counted, hlongest.text_eq]
  · obtain ⟨c, -, rfl⟩ := Option.map_eq_some_iff.1 (hwhole.symm.trans hf)
    rw [spelled, if_pos rfl, String.empty_append]

theorem exists_lookup (h : r.Built) (hfallback : ∃ c, r.verbs.get? r.fallback = some c)
    (text : String) : ∃ f, r.lookup text = some f := by
  rcases answers_lookup (built_iff.1 h) text with ⟨f, hf, -⟩ | ⟨-, hwhole⟩
  · exact ⟨f, hf⟩
  · obtain ⟨c, hc⟩ := hfallback
    exact ⟨_, by rw [hwhole, hc]; rfl⟩

theorem exists_reading (h : r.Built) (hfallback : ∃ c, r.verbs.get? r.fallback = some c)
    (t : Token) : ∃ f as, r.Reading t f as ∧
      r.intent? t = some (f.command.intent as t.attachLeft t.isLast) := by
  obtain ⟨f, hf⟩ := exists_lookup h hfallback t.text
  refine ⟨f, argumentsOf f.rest, ⟨hf, argumentsOf_ne_nil _, fun a => not_mem_of_mem_argumentsOf,
    ?_⟩, by rw [intent?, hf, Option.map_some]⟩
  rw [intercalate_argumentsOf, spelled_append_rest h hf]

/-- Where the fallback verb is registered, no token is without an intent. -/
theorem forall₂_intents (h : r.Built) (hfallback : ∃ c, r.verbs.get? r.fallback = some c)
    (ts : List Token) : List.Forall₂ (fun t i => ∃ f as, r.Reading t f as ∧
      i = f.command.intent as t.attachLeft t.isLast) ts (ts.filterMap r.intent?) := by
  induction ts with
  | nil => exact .nil
  | cons t ts ih =>
    obtain ⟨f, as, hreading, hintent⟩ := exists_reading h hfallback t
    rw [List.filterMap_cons, hintent]
    exact .cons ⟨f, as, hreading, rfl⟩ ih

/-- The tokens of a line spell its maximal runs in order, with the marker put back where it was
taken off, and the last one is marked as such. Lines with the same runs have the same tokens, so the
runs with single spaces between them have those of the line. Where the fallback verb is registered,
each token has one intent, which comes of reading the token as a verb and arguments. -/
theorem line_reads_back (line : String) :
    ∃ ss : List Text.Span, Text.ListsRuns line.toList ss ∧
      (Token.ofLine line).map Token.run = ss.map (·.chars) ∧
      (∀ k t, (Token.ofLine line)[k]? = some t →
        (t.attachLeft = true ↔ Token.leftMarker ∈ t.run.head?) ∧
        (t.isLast = true ↔ k + 1 = ss.length)) ∧
      (∀ (other : String) (os : List Text.Span), Text.ListsRuns other.toList os →
        os.map (·.chars) = ss.map (·.chars) → Token.ofLine other = Token.ofLine line) ∧
      Token.ofLine (" ".intercalate (ss.map fun s => String.ofList s.chars)) =
        Token.ofLine line ∧
      ∀ r : Registry, r.Built → (∃ c, r.verbs.get? r.fallback = some c) →
        List.Forall₂ (fun t i => ∃ f as, r.Reading t f as ∧
          i = f.command.intent as t.attachLeft t.isLast) (Token.ofLine line) (r.intents line) := by
  have hruns := Text.runs_eq line.toList
  have hlists := Text.listsRuns_spans line.toList
  refine ⟨Text.spans line.toList, hlists, ?_, fun k t ht => ?_, fun other os hos hchars => ?_, ?_,
    fun r hbuilt hfallback => forall₂_intents hbuilt hfallback _⟩
  · rw [Token.ofLine, Token.map_run_ofRuns, hruns]
  · rw [Token.ofLine, Token.getElem?_ofRuns] at ht
    obtain ⟨run, hrun, rfl⟩ := Option.map_eq_some_iff.1 ht
    rw [Token.attachLeft_ofRun, Token.run_ofRun, Token.isLast_ofRun, hruns, List.length_map,
      decide_eq_true_iff]
    exact ⟨Iff.rfl, Iff.rfl⟩
  · obtain rfl := hos.unique (Text.listsRuns_spans other.toList)
    rw [Token.ofLine, Text.runs_eq, hchars, ← hruns, Token.ofLine]
  · have hsolid : ∀ w ∈ Text.runs line.toList, w ≠ [] ∧ ∀ c ∈ w, Text.isBlank c = false := by
      intro w hw
      rw [hruns] at hw
      obtain ⟨s, hs, rfl⟩ := List.mem_map.1 hw
      have hrun := (hlists.mem_iff s).1 hs
      exact ⟨hrun.ne_nil, hrun.solid⟩
    have hspace : Text.isBlank ' ' = true := by decide
    have hjoined : (" ".intercalate ((Text.spans line.toList).map fun s =>
        String.ofList s.chars)).toList = [' '].intercalate (Text.runs line.toList) := by
      rw [String.toList_intercalate, List.map_map, hruns]
      simp [Function.comp_def]
    rw [Token.ofLine, hjoined, Text.runs_intercalate hspace hsolid, Token.ofLine]

/-- A line with blanks of several kinds, a marker, and arguments of which some are empty. -/
def spacedLine : String := "\u3000!subgraphin:Loop,a \t defaultvalue:1,,2  !\u00a0"

theorem line_reads_back_spaced :
    let joined := "!subgraphin:Loop,a defaultvalue:1,,2 !"
    Text.ListsRuns joined.toList (Text.spans joined.toList) ∧
      (Text.spans joined.toList).map (·.chars) = (Text.spans spacedLine.toList).map (·.chars) ∧
      Token.ofLine joined = Token.ofLine spacedLine ∧
      standard.Built ∧ (∃ c, standard.verbs.get? standard.fallback = some c) ∧
      List.Forall₂ (fun t i => ∃ f as, standard.Reading t f as ∧
          i = f.command.intent as t.attachLeft t.isLast)
        (Token.ofLine spacedLine) (standard.intents spacedLine) := by
  intro joined
  have hlists : Text.ListsRuns joined.toList (Text.spans joined.toList) := Text.listsRuns_spans _
  have hchars : (Text.spans joined.toList).map (·.chars) =
      (Text.spans spacedLine.toList).map (·.chars) := by
    decide +kernel
  have hfallback : ∃ c, standard.verbs.get? standard.fallback = some c := ⟨.bare, rfl⟩
  obtain ⟨ss, hss, -, -, hsame, -, hread⟩ := line_reads_back spacedLine
  obtain rfl := hss.unique (Text.listsRuns_spans _)
  exact ⟨hlists, hchars, hsame joined _ hlists hchars, built_standard, hfallback,
    hread standard built_standard hfallback⟩

end Registry

end GraphDraft
