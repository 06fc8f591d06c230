import GraphDraft.Program
import GraphDraft.Terminal.Session

/-!
# The command

Gathers arguments and input, lets `Program` and `TerminalPrompt` decide, and writes what they say.
-/

namespace GraphDraft.Shell

/-- Why a file cannot be opened. -/
def reason : IO.Error → String
  | .noFileOrDirectory _ code _ => "No such file or directory (os error " ++ toString code ++ ")"
  | .permissionDenied _ code _ => "Permission denied (os error " ++ toString code ++ ")"
  | .inappropriateType _ code _ => "Is a directory (os error " ++ toString code ++ ")"
  | e => toString e

/-- Empties the log file, if there is to be one, and says why that fails. -/
def openLog (arguments : List String) : IO (Option String) := do
  match CommandLine.Options.ofArguments arguments with
  | .ok o =>
    match o.log with
    | some path =>
      if o.help then return none
      try
        IO.FS.writeFile path ""
        return none
      catch e => return some (reason e)
    | none => return none
  | .error _ => return none

/-- The rest of a stream. -/
partial def readAll (stream : IO.FS.Stream) (before : String) : IO String := do
  let line ← stream.getLine
  if line.isEmpty then return before else readAll stream (before ++ line)

/-- A dimension of the terminal, as the shell gives it. -/
def dimension (name : String) (usual : Nat) : IO Nat := do
  return ((← IO.getEnv name).bind String.toNat?).getD usual

/-- Shows the prompt and types what the user types, line by line, until the user quits. -/
partial def converse (input output : IO.FS.Stream) (columns rows : Nat)
    (t : Terminal.TerminalPrompt) : IO (Option SessionError) := do
  output.putStr (Screen.draw (t.frame columns rows))
  output.flush
  let line ← input.getLine
  if line.isEmpty then return none
  match t.handleAll (line.toList.map .ofTyped) with
  | .error e => return some e
  | .ok (true, _) => return none
  | .ok (false, t) => converse input output columns rows t

/-- Runs the prompt in a terminal. -/
def interact (config : Config) : IO Program.Result := do
  match Terminal.TerminalPrompt.start config Standard.sources with
  | .error e => return Program.failure e.message
  | .ok t =>
    let columns ← dimension "COLUMNS" 80
    let rows ← dimension "LINES" 24
    match ← converse (← IO.getStdin) (← IO.getStdout) columns rows t with
    | some e => return Program.failure e.message
    | none => return {}

/-- A run in the mode that options and input choose. -/
def runMode (o : CommandLine.Options) : IO Program.Result := do
  let stdin ← IO.getStdin
  match o.mode (← stdin.isTty) with
  | .terminal => interact (o.configure .standard)
  | .piped => return Program.runWith o (← readAll stdin "")
  | .list _ | .batch => return Program.runWith o ""

end GraphDraft.Shell

def main (arguments : List String) : IO UInt32 := do
  let problem ← GraphDraft.Shell.openLog arguments
  let result ← match GraphDraft.Program.prepare (fun _ => problem) arguments with
    | .error r => pure r
    | .ok o => GraphDraft.Shell.runMode o
  IO.print result.output
  IO.eprint result.errors
  return .ofNat result.code
