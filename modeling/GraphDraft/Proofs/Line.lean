import GraphDraft.Command.Registry
import GraphDraft.Proofs.Draft.Beside
import GraphDraft.Proofs.Text.Runs

/-!
# Lines that are put together

Two lines with a blank between them have the tokens of the first one and then those of the second
one. Only the last token of the first line is not the last one any more, so that the intents are
those of the two lines, but for that (`intents_append`). A line that trimming leaves nothing of has
no intents (`intents_of_trim`).
-/

namespace GraphDraft

namespace Registry

/-! ## Intents -/

/-- What the runs of characters on a line are to do, none of them taken for the last one. -/
def plainIntents (r : Registry) (runs : List (List Char)) : List Intent :=
  runs.filterMap fun run => r.intent? (Token.ofRun run false)

theorem plain_intent (c : Command) (arguments : List String) (left isLast : Bool) :
    (c.intent arguments left isLast).plain = c.intent arguments left false := by
  cases c <;> rfl

theorem plain_intent? (r : Registry) (run : List Char) (isLast : Bool) :
    (r.intent? (Token.ofRun run isLast)).map Intent.plain = r.intent? (Token.ofRun run false) := by
  have htext : (Token.ofRun run isLast).text = (Token.ofRun run false).text ∧
      (Token.ofRun run isLast).attachLeft = (Token.ofRun run false).attachLeft ∧
      (Token.ofRun run false).isLast = false := by
    cases run with
    | nil => exact ⟨rfl, rfl, rfl⟩
    | cons c cs =>
      simp only [Token.ofRun]
      split <;> exact ⟨rfl, rfl, rfl⟩
  obtain ⟨htext, hleft, hlast⟩ := htext
  rw [intent?, intent?, htext, hleft, hlast, Option.map_map]
  simp only [Function.comp_def, plain_intent]

theorem map_plain_ofRuns (r : Registry) (runs : List (List Char)) :
    ((Token.ofRuns runs).filterMap r.intent?).map Intent.plain = r.plainIntents runs := by
  induction runs with
  | nil => rfl
  | cons run runs ih =>
    have hrun := plain_intent? r run runs.isEmpty
    rw [plainIntents, Token.ofRuns, List.filterMap_cons, List.filterMap_cons, ← hrun]
    cases r.intent? (Token.ofRun run runs.isEmpty) with
    | none => exact ih
    | some i => exact congrArg (i.plain :: ·) ih

/-- But for which is the last one, the intents of two lines in one are those of the first and then
those of the second. -/
theorem intents_append (r : Registry) (l₁ l₂ : String) :
    (r.intents (l₁ ++ " " ++ l₂)).map Intent.plain =
      (r.intents l₁).map Intent.plain ++ (r.intents l₂).map Intent.plain := by
  have hchars : (l₁ ++ " " ++ l₂).toList = l₁.toList ++ ' ' :: l₂.toList := by simp
  have hspace : Text.isBlank ' ' = true := by decide
  simp only [intents, Token.ofLine, map_plain_ofRuns, hchars, Text.runs_append_blank _ hspace]
  exact List.filterMap_append

theorem intents_of_trim (r : Registry) {line : String} (h : Text.trim line.toList = []) :
    r.intents line = [] := by
  rw [intents, Token.ofLine, Text.runs_of_trim h]
  rfl

end Registry

end GraphDraft
