import GraphDraft.Prompt.Key

/-!
# Terminal events

What a terminal reports, and which of it matters to the prompt: keys as they go down, a new size,
and the loss of the focus.
-/

namespace GraphDraft.Terminal

/-- The code of a key as a terminal reports it. Keys that the prompt does not know are `other`. -/
inductive KeyCode where
  | char (c : Char)
  | backspace
  | enter
  | left
  | right
  | up
  | down
  | home
  | end
  | tab
  | backTab
  | delete
  | esc
  | other
deriving DecidableEq, Repr

inductive KeyPhase where
  | press
  | release
  | repeat
deriving DecidableEq, Repr

/-- A key as a terminal reports it. -/
structure KeyReport where
  code : KeyCode
  shift : Bool := false
  alt : Bool := false
  control : Bool := false
  phase : KeyPhase := .press
deriving DecidableEq, Repr

/-- What a terminal reports. -/
inductive Report where
  | key (k : KeyReport)
  | resized (columns rows : Nat)
  | focusLost
  | focusGained
  | pasted (text : String)
deriving DecidableEq, Repr

/-- What matters to the prompt. -/
inductive Event where
  | input (k : KeyPress)
  | resized (columns rows : Nat)
  | focusLost
  | none
deriving DecidableEq, Repr

/-- The key of a report. A character with control or with meta held, but not with both, is a key of
its own. -/
def KeyReport.key (r : KeyReport) : Key :=
  match r.code with
  | .char c =>
    if r.control && !r.alt then .ctrl c else if r.alt && !r.control then .alt c else .char c
  | .backspace => .backspace
  | .enter => .enter
  | .left => .left
  | .right => .right
  | .up => .up
  | .down => .down
  | .home => .home
  | .end => .end
  | .tab | .backTab => .tab
  | .delete => .delete
  | .esc => .esc
  | .other => .null

/-- The event of a report. -/
def Report.event : Report → Event
  | .key r =>
    if r.phase = .press then .input ⟨r.key, r.shift, r.alt, r.control⟩ else .none
  | .resized columns rows => .resized columns rows
  | .focusLost => .focusLost
  | .focusGained | .pasted _ => .none

/-- The key that a typed character stands for: a terminal sends control keys as the characters
below the blank, and some keys have characters of their own among them. -/
def keyOfTyped (c : Char) : Key :=
  if c = '\n' || c = '\r' then .enter
  else if c = '\t' then .tab
  else if c = '\x1b' then .esc
  else if c = '\x7f' then .backspace
  else if c.toNat < 0x20 then .ctrl (Char.ofNat (c.toNat + 0x60))
  else .char c

/-- The event of a typed character. -/
def Event.ofTyped (c : Char) : Event :=
  .input (.ofKey (keyOfTyped c))

end GraphDraft.Terminal
