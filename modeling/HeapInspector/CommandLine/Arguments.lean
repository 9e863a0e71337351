import HeapInspector.CommandLine.Grammar

/-!
The arguments of the program: which process to inspect and how, and then what to do, which is to
describe words or to start the interactive loop.
-/

namespace HeapInspector.CommandLine

/-- What to do, with values as they were given. -/
inductive Task where
  | describe (words : List String) (json : Bool) (depth : Option String)
  | repl
  deriving DecidableEq, Repr

structure Arguments where
  process : String
  width : Option String
  bigEndian : Bool
  /-- The file with the type table. -/
  typesFile : Option String
  /-- Further names of types, as entries. -/
  typeEntries : List String
  /-- Whether to log what is read. -/
  trace : Bool
  task : Task
  deriving DecidableEq, Repr

/-- What the arguments ask for. -/
inductive Intent where
  | help
  /-- The version, under the name of the program or of one of its subcommands. -/
  | version (text : String)
  | misuse
  | inspect (arguments : Arguments)
  deriving DecidableEq, Repr

def programName : String := "zis-inspect"

def programVersion : String := "0.1.0"

def mainGrammar : Grammar where
  options :=
    [{ OptionSpec.valued "pid" with required := true },
      { OptionSpec.valued "width" with allowed := some ["32", "64"] },
      .flag "big-endian",
      .valued "types",
      { OptionSpec.valued "type" with repeatable := true },
      .flag "trace"]
  operands := false
  subcommands := ["describe", "repl", "help"]

def describeGrammar : Grammar where
  options := [.flag "json", .valued "depth"]
  operands := true
  subcommands := []

def replGrammar : Grammar := ⟨[], false, []⟩

/-- Help on a subcommand is asked for by its name. Nothing is known of anything below that. -/
def helpIntent : List String → Intent
  | [] => .help
  | [name] => if mainGrammar.subcommands.contains name then .help else .misuse
  | _ => .misuse

/-- The version of a subcommand has no number. -/
def stopIntent (subcommand : Option String) : Stop → Intent
  | .help => .help
  | .misuse => .misuse
  | .version =>
      match subcommand with
      | none => .version (programName ++ " " ++ programVersion)
      | some name => .version (programName ++ "-" ++ name ++ " ")

/-- The task of a subcommand, from the arguments behind its name. -/
def readTask (name : String) (rest : List String) : Except Intent Task :=
  let grammar := if name = "describe" then describeGrammar else replGrammar
  match grammar.scan .empty none rest with
  | .stopped stop => .error (stopIntent (some name) stop)
  | .subcommand .. => .error .misuse
  | .finished found =>
      if found.satisfies grammar then
        .ok (if name = "describe" then
          .describe found.operands (found.has "json") (found.value? "depth")
        else .repl)
      else .error .misuse

def Arguments.ofFound (found : Found) (process : String) (task : Task) : Arguments where
  process
  width := found.value? "width"
  bigEndian := found.has "big-endian"
  typesFile := found.value? "types"
  typeEntries := found.valuesOf "type"
  trace := found.has "trace"
  task

/-- What a list of arguments asks for. The options of the program come before the subcommand; they
are checked after the subcommand has been read. -/
def readArguments (arguments : List String) : Intent :=
  match mainGrammar.scan .empty none arguments with
  | .stopped stop => stopIntent none stop
  | .finished _ => .misuse
  | .subcommand found name rest =>
      if name = "help" then helpIntent rest
      else
        match readTask name rest with
        | .error intent => intent
        | .ok task =>
            match found.value? "pid" with
            | some process =>
                if found.satisfies mainGrammar then .inspect (.ofFound found process task)
                else .misuse
            | none => .misuse

end HeapInspector.CommandLine
