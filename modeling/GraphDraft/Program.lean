import GraphDraft.Batch
import GraphDraft.CommandLine

/-!
# The program

One run of the program from its arguments and its input, apart from the interactive mode.
-/

namespace GraphDraft.Program

/-- What a run leaves behind. -/
structure Result where
  code : Nat := 0
  output : String := ""
  errors : String := ""
deriving DecidableEq, Repr

/-- A run that fails for a reason. -/
def failure (message : String) : Result where
  code := 1
  errors := "Error: " ++ Text.quoted message ++ "\n"

/-- How many names a list has at most. -/
def listLimit : Nat := 1000

/-- The names of the entries that match a query, and their number. -/
def list (c : Catalog) (query : String) : Nat × String :=
  let found := c.search query listLimit
  (found.length, Text.unlines (found.map (·.name)))

/-- A run that types lines. -/
def typeLines (config : Config) (cancel : Bool) (lines : List String) : Result :=
  match Batch.run cancel lines
      (.new config Standard.sources, .empty config.documentTitle) with
  | .ok (output, _) => { output }
  | .error e => failure e.message

/-- A run with some options and the text of its input, which is not a terminal. -/
def runWith (o : CommandLine.Options) (input : String) : Result :=
  let config := o.configure .standard
  match o.mode false with
  | .list query => { output := (list (.build Standard.sources config) query).2 }
  | .batch => typeLines config o.cancel o.eval
  | .piped | .terminal => typeLines config o.cancel (Batch.inputLines input)

/-- The message about a log file that cannot be opened. -/
def logMessage (path reason : String) : String :=
  "cannot open log file " ++ path ++ ": " ++ reason

/-- The options of a run, unless the run is over with reading them. `logProblem` says of a file why
it cannot be logged to. -/
def prepare (logProblem : String → Option String) (arguments : List String) :
    Except Result CommandLine.Options :=
  match CommandLine.Options.ofArguments arguments with
  | .error e => .error (failure e.message)
  | .ok o =>
    if o.help then .error { output := Text.unlines CommandLine.help }
    else match o.log.bind fun path => (logProblem path).map (logMessage path) with
      | some message => .error (failure message)
      | none => .ok o

/-- A run of the program. -/
def run (logProblem : String → Option String) (arguments : List String) (input : String) : Result :=
  match prepare logProblem arguments with
  | .error r => r
  | .ok o => runWith o input

end GraphDraft.Program
