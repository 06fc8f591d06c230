import GraphDraft.Config

/-!
# The command line

Arguments of the program, and which of its modes they choose.
-/

namespace GraphDraft.CommandLine

/-- Flags that stand alone. -/
inductive Switch where
  | cancel
  | help
deriving DecidableEq, Repr

/-- Flags before a value. -/
inductive Valued where
  | eval
  | list
  | log
  | title
deriving DecidableEq, Repr

inductive Flag where
  | switch (s : Switch)
  | valued (v : Valued)
deriving DecidableEq, Repr

/-- The spellings of the flags. -/
def flags : List (String × Flag) :=
  [("-c", .switch .cancel), ("--cancel", .switch .cancel), ("-h", .switch .help),
   ("--help", .switch .help), ("-e", .valued .eval), ("--eval", .valued .eval),
   ("-l", .valued .list), ("--list", .valued .list), ("--log", .valued .log),
   ("-t", .valued .title), ("--title", .valued .title)]

/-- The long spelling of a flag. -/
def Valued.text : Valued → String
  | eval => "--eval"
  | list => "--list"
  | log => "--log"
  | title => "--title"

/-- What is wrong with the arguments. -/
inductive ArgumentError where
  | missingValue (flag : Valued)
  | unknownFlag (argument : String)
  | unexpected (argument : String)
deriving DecidableEq, Repr

def ArgumentError.message : ArgumentError → String
  | missingValue flag => flag.text ++ " requires a value"
  | unknownFlag a => "Unknown flag: " ++ a ++ ". Use --help for usage."
  | unexpected a => "Unexpected argument: " ++ a ++ ". Lines are passed with --eval."

structure Options where
  /-- Lines to type. -/
  eval : List String := []
  /-- Take each line back. -/
  cancel : Bool := false
  /-- List the entries that match this query. -/
  list : Option String := none
  /-- The file that is logged to. -/
  log : Option String := none
  /-- The title of the root graph. -/
  title : Option String := none
  help : Bool := false
deriving DecidableEq, Repr

namespace Options

def turnOn (o : Options) : Switch → Options
  | .cancel => { o with cancel := true }
  | .help => { o with help := true }

/-- Lines add up; of other values the last one counts. -/
def give (o : Options) (value : String) : Valued → Options
  | .eval => { o with eval := o.eval ++ [value] }
  | .list => { o with list := some value }
  | .log => { o with log := some value }
  | .title => { o with title := some value }

/-- Reads arguments on top of some options. -/
def read (o : Options) : List String → Except ArgumentError Options
  | [] => .ok o
  | a :: as =>
    match flags.lookup a with
    | none => .error (if a.toList.head? = some '-' then .unknownFlag a else .unexpected a)
    | some (.switch s) => read (o.turnOn s) as
    | some (.valued f) =>
      match as with
      | [] => .error (.missingValue f)
      | value :: as => read (o.give value f) as

/-- Reads the arguments of the program. -/
def ofArguments (as : List String) : Except ArgumentError Options :=
  read {} as

/-- Changes a configuration as the options ask. -/
def configure (o : Options) (c : Config) : Config :=
  o.title.elim c fun t => c.set Config.titleSetting (.string t)

end Options

/-- What the program does. -/
inductive Mode where
  | list (query : String)
  /-- Types the lines among the arguments. -/
  | batch
  /-- Types the lines of its input. -/
  | piped
  | terminal
deriving DecidableEq, Repr

/-- The mode that options choose. -/
def Options.mode (o : Options) (inputIsTerminal : Bool) : Mode :=
  match o.list with
  | some query => .list query
  | none =>
    if !o.eval.isEmpty then .batch else if inputIsTerminal then .terminal else .piped

/-- What the program says about itself. -/
def help : List String :=
  ["graphprompt - Build node graphs from a command line",
   "",
   "Usage: graphprompt [OPTIONS]",
   "",
   "Without options an interactive prompt opens in the terminal.",
   "",
   "Options:",
   "  -h, --help         Show this help message",
   "  -e, --eval LINE    Type LINE and confirm it (repeatable)",
   "  -c, --cancel       Cancel each --eval line instead of confirming",
   "  -l, --list QUERY   List catalog entries containing QUERY",
   "  -t, --title NAME   Title of the root graph",
   "      --log FILE     Write log output to FILE"]

end GraphDraft.CommandLine
