import HeapInspector.CommandLine.Arguments
import HeapInspector.Repl.Session
import HeapInspector.Report
import HeapInspector.TypeTable.Entry

/-!
The program as a whole. The setup is checked first: the process, the types, and the arguments of the
task. Only then are words described.
-/

namespace HeapInspector.CommandLine

/-- A setup that makes no sense. -/
inductive SetupFault where
  | process (text : String)
  | width (text : String)
  | types (fault : TypeTable.Fault)
  | depth (text : String)
  | word (fault : WordFault)
  deriving DecidableEq, Repr

def SetupFault.message : SetupFault → String
  | process text => "invalid process ID `" ++ text ++ "`"
  | width text => "unsupported width `" ++ text ++ "`"
  | types fault => fault.message
  | depth text => "invalid depth `" ++ text ++ "`"
  | word fault => fault.message

/-- What is to be done, with every value read. -/
inductive Plan where
  | describe (words : List Nat) (format : ReportFormat) (depth : Nat)
  | repl
  deriving DecidableEq, Repr

structure Setup where
  process : Int
  arch : Architecture
  types : TypeTable
  trace : Bool
  plan : Plan
  deriving DecidableEq, Repr

def defaultDepth : Nat := 1

/-- The number of a process: an optional sign and digits, within 32 bits. -/
def readProcess? (text : String) : Option Int :=
  match text.toList with
  | '-' :: c :: rest =>
      if c = '+' then none
      else (Numeral.readUnsigned 10 ((1 <<< 31) + 1) (c :: rest)).toOption.map fun n => -(n : Int)
  | text => (Numeral.readUnsigned 10 (1 <<< 31) text).toOption.map fun n => (n : Int)

/-- Words are as wide as those of this machine unless the width is given. -/
def readWidth? : Option String → Except SetupFault Width
  | none => .ok .w64
  | some text =>
      match (Numeral.readUnsigned 10 (1 <<< 32) text.toList).toOption.bind Width.ofBits? with
      | some width => .ok width
      | none => .error (.width text)

/-- Adds entries in order. The first one that fails ends it. -/
def addEntries (table : TypeTable) : List String → Except TypeTable.Fault TypeTable
  | [] => .ok table
  | entry :: rest =>
      match table.addEntry entry with
      | (.ok (), table) => addEntries table rest
      | (.error fault, _) => .error fault

/-- The type table of a file, if there is one, with entries added to it in order. -/
def readTypes (readFile : String → Except FileFault String) (file : Option String)
    (entries : List String) : Except TypeTable.Fault TypeTable := do
  let table ← match file with
    | some path => TypeTable.load path (readFile path)
    | none => pure .empty
  addEntries table entries

def readDepth : Option String → Except SetupFault Nat
  | none => .ok defaultDepth
  | some text =>
      match Numeral.readUnsigned 10 machineBound text.toList with
      | .ok depth => .ok depth
      | .error _ => .error (.depth text)

def readPlan : Task → Except SetupFault Plan
  | .describe words json depth => do
      let depth ← readDepth depth
      let words ← words.mapM fun text => (parseWord text).mapError SetupFault.word
      return .describe words (if json then .json else .text) depth
  | .repl => .ok .repl

def readSetup (readFile : String → Except FileFault String) (arguments : Arguments) :
    Except SetupFault Setup := do
  let process ← match readProcess? arguments.process with
    | some process => pure process
    | none => throw (.process arguments.process)
  let width ← readWidth? arguments.width
  let types ← (readTypes readFile arguments.typesFile arguments.typeEntries).mapError .types
  let plan ← readPlan arguments.task
  return ⟨process, ⟨width, if arguments.bigEndian then .big else .little⟩, types,
    arguments.trace, plan⟩

def Setup.introspector (setup : Setup) : Introspector :=
  ⟨setup.arch, setup.types.nameOf, Registry.builtin⟩

/-- How the program ends once it has started on its task. -/
structure Exit where
  code : Nat
  output : Output
  deriving DecidableEq, Repr

/-- Carries out a plan. Words that cannot be described show in the exit code. -/
def Setup.execute (setup : Setup) (input : String) : Inquiry Exit :=
  match setup.plan with
  | .describe words format depth => do
      let reported ← setup.introspector.reportWords format depth words
      return ⟨if reported.succeeded then 0 else 2, reported.output⟩
  | .repl => do
      let (_, output) ← Repl.run setup.introspector ⟨defaultDepth, none⟩ input
      return ⟨0, output⟩

/-- What the program comes to before it reads any memory. -/
inductive Start where
  | help
  | version (text : String)
  | misuse
  | rejected (fault : SetupFault)
  | ready (setup : Setup)
  deriving DecidableEq, Repr

def start (readFile : String → Except FileFault String) (arguments : List String) : Start :=
  match readArguments arguments with
  | .help => .help
  | .version text => .version text
  | .misuse => .misuse
  | .inspect arguments =>
      match readSetup readFile arguments with
      | .ok setup => .ready setup
      | .error fault => .rejected fault

def usage : String :=
  "zis-inspect [--width 32|64] [--big-endian] [--types FILE] [--type NAME=ADDR]... [--trace]\n" ++
  "    --pid PID (describe [--json] [--depth N] WORD... | repl)\n"

end HeapInspector.CommandLine
