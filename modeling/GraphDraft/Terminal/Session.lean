import GraphDraft.Outline
import GraphDraft.Prompt.Basic
import GraphDraft.Terminal.Event
import GraphDraft.Terminal.Screen

/-!
# The prompt in a terminal

A prompt that is open all the time, with a preview: the changed lines from the outline that was
kept last to the outline of what the line has done.
-/

namespace GraphDraft

namespace Prompt

/-- What a screen shows of a prompt, previewing the changes since an earlier outline. -/
def content (p : Prompt) (since : String) : ScreenContent where
  document := p.document.outline
  changes := diffLines since p.document.outline
  output := p.session.feedback.output
  hint := p.session.feedback.hint
  line := p.line.text
  cursor := p.line.cursor

end Prompt

namespace Terminal

structure TerminalPrompt where
  prompt : Prompt
  keymap : Keymap
  /-- The outline of the document without what the line has done. -/
  committed : String

namespace TerminalPrompt

/-- Opens the session if it is closed. -/
def reopen (t : TerminalPrompt) : Except SessionError TerminalPrompt := do
  return { t with prompt := ← t.prompt.ensureOpen }

/-- The prompt of a new document. -/
def start (config : Config) (sources : List Source) : Except SessionError TerminalPrompt :=
  let document := Document.empty config.documentTitle
  reopen
    { prompt := { session := .new config sources, document }
      keymap := .ofBindings config.bindings
      committed := document.outline }

/-- Handles an event; also says whether the user asked to quit. -/
def handle (t : TerminalPrompt) : Event → Except SessionError (Bool × TerminalPrompt)
  | .input k => do
    let (event, prompt) ← t.prompt.press t.keymap k
    let t := { t with prompt }
    match event with
    | .quit => return (true, t)
    | .confirmed | .applied =>
      return (false, ← reopen { t with committed := prompt.document.outline })
    | .cancelled => return (false, ← t.reopen)
    | .edited | .unchanged => return (false, t)
  | .focusLost => do
    let (_, prompt) ← t.prompt.cancel
    return (false, ← reopen { t with prompt })
  | .resized _ _ | .none => .ok (false, t)

/-- Handles events in order, up to one that asks to quit. -/
def handleAll : List Event → TerminalPrompt → Except SessionError (Bool × TerminalPrompt)
  | [], t => .ok (false, t)
  | e :: es, t => do
    let (quit, t) ← t.handle e
    if quit then return (true, t) else handleAll es t

/-- The screen of a prompt. -/
def frame (t : TerminalPrompt) (columns rows : Nat) : Frame :=
  Screen.compose (t.prompt.content t.committed) columns rows

end TerminalPrompt

end Terminal

end GraphDraft
