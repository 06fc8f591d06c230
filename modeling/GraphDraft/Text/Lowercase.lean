import GraphDraft.Text.Table.Case

/-!
# Lowercase text

Full lowercasing. Each character has a lowercase form by itself, except that a capital sigma ends
a word in its final form; `lowercase` therefore looks at the characters on both sides of it.
-/

namespace GraphDraft.Text

/-- The lowercase form of a code point in a run, if the run holds it. -/
def Table.CaseRun.lower? (r : Table.CaseRun) (n : Nat) : Option Nat :=
  if r.first ≤ n ∧ n ≤ r.last ∧ (n - r.first) % r.step = 0 then some (r.target + (n - r.first))
  else none

/-- The lowercase form of a character by itself. One capital has two characters: the dotted
capital I. -/
def lowercaseChar (c : Char) : List Char :=
  if c.toNat < 0x80 then [c.toLower]
  else if c = '\u0130' then ['i', '\u0307']
  else match Table.lowercase.findSome? (·.lower? c.toNat) with
    | some n => [Char.ofNat n]
    | none => [c]

/-- Whether a cased character comes first once the ignorable ones are passed over. -/
def nextIsCased (cs : List Char) : Bool :=
  match cs.dropWhile Table.caseIgnorable.has with
  | c :: _ => Table.cased.has c
  | [] => false

/-- Lowercases `cs`, where `before` is what stands to its left, nearest first. -/
def lowercaseFrom (before : List Char) : List Char → List Char
  | [] => []
  | c :: cs =>
    (if c = 'Σ' then [if nextIsCased before && !nextIsCased cs then 'ς' else 'σ']
      else lowercaseChar c) ++ lowercaseFrom (c :: before) cs

/-- Full lowercase form of a text. -/
def lowercase (s : String) : String :=
  String.ofList (lowercaseFrom [] s.toList)

end GraphDraft.Text
