/-!
# Keys

Keys, their names, and the names under which bindings may refer to them. Control and meta keys are
named by a character behind a mark; every other single character names itself.
-/

namespace GraphDraft

inductive Key where
  | char (c : Char)
  | ctrl (c : Char)
  | alt (c : Char)
  | esc
  | enter
  | backspace
  | tab
  | delete
  | home
  | end
  | up
  | down
  | left
  | right
  | null
deriving DecidableEq, Repr

namespace Key

def text : Key → String
  | char c => c.toString
  | ctrl c => "C-" ++ c.toString
  | alt c => "M-" ++ c.toString
  | esc => "ESC"
  | enter => "RET"
  | backspace => "BS"
  | tab => "TAB"
  | delete => "DEL"
  | home => "Home"
  | .end => "End"
  | up => "↑"
  | down => "↓"
  | left => "←"
  | right => "→"
  | null => "NUL"

/-- The names of keys without a character, in capitals. -/
def names : List (String × Key) :=
  [("ENTER", enter), ("RET", enter), ("TAB", tab), ("BACKSPACE", backspace), ("BS", backspace),
   ("ESC", esc), ("DELETE", delete), ("DEL", delete), ("HOME", home), ("END", .end), ("UP", up),
   ("DOWN", down), ("LEFT", left), ("RIGHT", right), ("NUL", null), ("NULL", null)]

/-- The character behind a mark. -/
def marked? (mark : List Char) (cs : List Char) : Option Char :=
  match mark.isPrefixOf? cs with
  | some [c] => some c
  | _ => none

/-- The character behind one of the two marks of control keys. -/
def controlled? (cs : List Char) : Option Char :=
  (marked? ['^'] cs).orElse fun _ => marked? ['C', '-'] cs

/-- The character behind one of the two marks of meta keys. -/
def meta? (cs : List Char) : Option Char :=
  (marked? ['M', '-'] cs).orElse fun _ => marked? ['E', 'S', 'C', '-'] cs

/-- Reads the name of a key. The case of letters counts only in characters that name themselves. -/
def ofText? (s : String) : Option Key :=
  let cs := s.toList
  match controlled? cs, meta? cs with
  | some c, _ => some (ctrl c.toLower)
  | none, some c => some (alt c.toLower)
  | none, none =>
    match names.lookup (String.ofList (cs.map Char.toUpper)), cs with
    | some k, _ => some k
    | none, [c] => some (char c)
    | none, _ => none

/-- The key that bindings are kept under: control and meta letters in lower case. -/
def folded : Key → Key
  | ctrl c => ctrl c.toLower
  | alt c => alt c.toLower
  | k => k

end Key

/-- A key press with the modifiers that were held. -/
structure KeyPress where
  key : Key
  shift : Bool := false
  alt : Bool := false
  ctrl : Bool := false
deriving DecidableEq, Repr

/-- A key pressed with the modifiers that are part of it. -/
def KeyPress.ofKey (k : Key) : KeyPress where
  key := k
  alt := k matches .alt _
  ctrl := k matches .ctrl _

end GraphDraft
