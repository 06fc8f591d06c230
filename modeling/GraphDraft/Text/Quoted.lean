import GraphDraft.Text.Table.Cluster
import GraphDraft.Text.Table.Printable

/-!
# Quoted text

The form in which titles, labels and text values are shown: between double quotes, with quotes and
backslashes escaped, the common controls by letter, and every other character that would not show
as itself by its number in base sixteen.
-/

namespace GraphDraft.Text

/-- Marks that join the character before them, which quoted text never shows raw: the extending
marks that are not emoji modifiers. -/
def isJoiningMark (c : Char) : Bool :=
  Table.linker.has c || c = '\u200C' ||
    Table.extend.has c && !(0x1F3FB ≤ c.toNat && c.toNat ≤ 0x1F3FF)

/-- Digits in base sixteen, lowercase. -/
def hexDigits (n : Nat) : List Char :=
  Nat.toDigits 16 n

/-- A character by its number: `\u`, and the number between braces. -/
def escapeByNumber (c : Char) : List Char :=
  '\\' :: 'u' :: '\x7b' :: hexDigits c.toNat ++ ['\x7d']

/-- The form of one character inside quoted text. -/
def escape (c : Char) : List Char :=
  if c = '\x00' then ['\\', '0']
  else if c = '\t' then ['\\', 't']
  else if c = '\r' then ['\\', 'r']
  else if c = '\n' then ['\\', 'n']
  else if c = '"' then ['\\', '"']
  else if c = '\\' then ['\\', '\\']
  else if c.toNat < 0x7F && 0x20 ≤ c.toNat then [c]
  else if isJoiningMark c || Table.unprintable.has c then escapeByNumber c
  else [c]

/-- The text between double quotes, each character escaped. -/
def quoted (s : String) : String :=
  String.ofList ('"' :: s.toList.flatMap escape ++ ['"'])

end GraphDraft.Text
