import GraphDraft.Prompt.Key
import GraphDraft.Proofs.Text.Lowercase

/-!
# Reading back the names of keys

The name of a key is read as a key again (`Key.ofText?_text`). This is the same key, unless the case
of a letter or an arrow stands in the way (`Key.name_read_back`): control and meta letters are read
in lower case, and an arrow is read as the character that has the same name.
-/

namespace GraphDraft.Key

/-- The keys whose names are single characters. -/
def arrows : List Key := [up, down, left, right]

/-- The character that an arrow shares its name with; any other key is itself. -/
def sign : Key → Key
  | up => char '↑'
  | down => char '↓'
  | left => char '←'
  | right => char '→'
  | k => k

theorem text_sign (k : Key) : k.sign.text = k.text := by
  cases k <;> rfl

/-! ## Reading -/

/-- The names of keys without a character are longer than one. -/
theorem lookup_singleton (c : Char) : names.lookup (String.ofList [c]) = none := by
  have hlong : ∀ e ∈ names, e.1.length ≠ 1 := by decide
  refine List.lookup_eq_none_iff.2 fun e he => bne_iff_ne.2 fun heq => hlong e he ?_
  rw [← heq, String.length_ofList]
  rfl

/-- Nothing stands behind a mark in a text of one character, be it a mark itself. -/
theorem marked?_singleton (m : Char) (ms : List Char) (c : Char) :
    marked? (m :: ms) [c] = none := by
  have hbehind : (m :: ms).isPrefixOf? [c] = if m == c then ms.isPrefixOf? [] else none := rfl
  rw [marked?, hbehind]
  cases m == c <;> cases ms <;> rfl

/-- A single character names itself. -/
theorem ofText?_singleton (c : Char) : ofText? (String.ofList [c]) = some (char c) := by
  have hcontrol : controlled? [c] = none := by
    rw [controlled?, marked?_singleton, marked?_singleton]
    rfl
  have hmeta : meta? [c] = none := by
    rw [meta?, marked?_singleton, marked?_singleton]
    rfl
  simp only [ofText?, String.toList_ofList, hcontrol, hmeta, List.map_cons, List.map_nil,
    lookup_singleton]

theorem ofText?_text_ctrl (c : Char) : ofText? (text (ctrl c)) = some (ctrl c.toLower) := by
  have hname : (text (ctrl c)).toList = ['C', '-', c] := by simp [text]
  rw [ofText?, hname]
  rfl

theorem ofText?_text_alt (c : Char) : ofText? (text (alt c)) = some (alt c.toLower) := by
  have hname : (text (alt c)).toList = ['M', '-', c] := by simp [text]
  rw [ofText?, hname]
  rfl

/-- What the name of a key is read as. -/
theorem ofText?_text (k : Key) : ofText? k.text = some k.sign.folded := by
  cases k with
  | char c => exact ofText?_singleton c
  | ctrl c => exact ofText?_text_ctrl c
  | alt c => exact ofText?_text_alt c
  | up => exact ofText?_singleton '↑'
  | down => exact ofText?_singleton '↓'
  | left => exact ofText?_singleton '←'
  | right => exact ofText?_singleton '→'
  | esc | enter | backspace | tab | delete | home | «end» | null => decide +kernel

/-! ## Keys that are read back -/

theorem toLower_eq_self_iff {c : Char} : c.toLower = c ↔ c.isUpper = false := by
  have hupper : c.isUpper = true ↔ 0x41 ≤ c.toNat ∧ c.toNat ≤ 0x5A := decide_eq_true_iff
  rw [← Char.toNat_inj, Text.toNat_toLower, ← Bool.not_eq_true, hupper]
  split <;> omega

/-- The capital letters of control and meta keys are all that is lost in lower case. -/
theorem folded_eq_self_iff {k : Key} :
    k.folded = k ↔ ∀ c, k = ctrl c ∨ k = alt c → c.isUpper = false := by
  cases k <;> simp [folded, toLower_eq_self_iff]

theorem sign_folded_eq_self_iff {k : Key} : k.sign.folded = k ↔ k.folded = k ∧ k ∉ arrows := by
  cases k <;> simp [sign, folded, arrows]

/-- The name of a key is read as a key. It is the one that has the name if this is no arrow, and no
control or meta key of a capital letter; an arrow has the name of a character. -/
theorem name_read_back (k : Key) :
    ofText? k.text = some k.sign.folded ∧ k.sign.text = k.text ∧
      (ofText? k.text = some k ↔
        (∀ c, k = ctrl c ∨ k = alt c → c.isUpper = false) ∧ k ∉ arrows) := by
  refine ⟨ofText?_text k, text_sign k, ?_⟩
  rw [ofText?_text, Option.some_inj, sign_folded_eq_self_iff, folded_eq_self_iff]

/-- The arrow that points up is not read back. -/
theorem not_name_read_back_up : ¬∀ k : Key,
    (∀ c, k = ctrl c ∨ k = alt c → c.isUpper = false) → ofText? k.text = some k := by
  intro h
  have hup := h up (by simp)
  revert hup
  decide +kernel

end GraphDraft.Key
