/-!
The grammar of command lines: options with and without values, operands, and subcommands with a
grammar of their own. Scanning a line ends in what was found, or in a request for help or for the
version, or in a misuse. Which of these it is depends on which comes first.
-/

namespace HeapInspector.CommandLine

structure OptionSpec where
  name : String
  takesValue : Bool
  /-- Whether the option may be given more than once. -/
  repeatable : Bool
  required : Bool
  /-- The values that are allowed, if not all are. -/
  allowed : Option (List String)
  deriving DecidableEq, Repr

def OptionSpec.flag (name : String) : OptionSpec := ⟨name, false, false, false, none⟩

def OptionSpec.valued (name : String) : OptionSpec := ⟨name, true, false, false, none⟩

/-- What may stand on a line. If operands are allowed at all, there must be one at least. -/
structure Grammar where
  options : List OptionSpec
  operands : Bool
  subcommands : List String
  deriving DecidableEq, Repr

/-- Why scanning ends early. -/
inductive Stop where
  | help
  | version
  | misuse
  deriving DecidableEq, Repr

/-- What has been found on a line. -/
structure Found where
  /-- The options, by name, as often as they were given. -/
  given : List String
  /-- The values of options, in order. -/
  values : List (String × String)
  operands : List String
  deriving DecidableEq, Repr

namespace Found

def empty : Found := ⟨[], [], []⟩

def give (found : Found) (name : String) : Found := { found with given := found.given ++ [name] }

def addValue (found : Found) (name value : String) : Found :=
  { found with values := found.values ++ [(name, value)] }

def addOperand (found : Found) (operand : String) : Found :=
  { found with operands := found.operands ++ [operand] }

def has (found : Found) (name : String) : Bool := found.given.contains name

def valuesOf (found : Found) (name : String) : List String :=
  (found.values.filter (·.1 = name)).map (·.2)

def value? (found : Found) (name : String) : Option String := (found.valuesOf name).head?

/-- Whether what was given of an option is in order. An option without its value is not, unless it is
repeatable and has a value elsewhere. -/
def accepts (found : Found) (spec : OptionSpec) : Bool :=
  let count := found.given.count spec.name
  let values := found.valuesOf spec.name
  if count = 0 then !spec.required
  else
    (spec.repeatable || count = 1) && (!spec.takesValue || !values.isEmpty) &&
      (match spec.allowed with
        | some allowed => values.all allowed.contains
        | none => true)

/-- Whether the line as a whole is in order. -/
def satisfies (found : Found) (grammar : Grammar) : Bool :=
  grammar.options.all found.accepts && (!grammar.operands || !found.operands.isEmpty)

end Found

/-- How an argument looks before anything is known about the grammar. -/
inductive Shape where
  /-- Two hyphens alone: only operands follow. -/
  | endOfOptions
  /-- An option by its name, with the value behind an equals sign if there is one. -/
  | long (name : String) (value : Option String)
  /-- Options of one letter. -/
  | short (letters : List Char)
  | plain
  deriving DecidableEq, Repr

/-- The shape of an argument. Any number of hyphens introduces a name, and any number of equals signs
a value. A hyphen alone is plain. -/
def Shape.ofArgument (argument : String) : Shape :=
  let isHyphen (c : Char) : Bool := c = '-'
  match argument.toList with
  | ['-', '-'] => endOfOptions
  | '-' :: '-' :: rest =>
      let body := rest.dropWhile isHyphen
      let name := String.ofList (body.takeWhile (· ≠ '='))
      match body.dropWhile (· ≠ '=') with
      | _ :: value => long name (some (String.ofList (value.dropWhile (· = '='))))
      | [] => long name none
  | '-' :: c :: rest => short (c :: rest)
  | _ => plain

/-- The end of a scan. -/
inductive Scan where
  | finished (found : Found)
  /-- A subcommand, and the arguments behind its name. -/
  | subcommand (found : Found) (name : String) (rest : List String)
  | stopped (stop : Stop)
  deriving DecidableEq, Repr

namespace Grammar

def option? (grammar : Grammar) (name : String) : Option OptionSpec :=
  grammar.options.find? (·.name = name)

/-- Scans operands up to the end. -/
def scanOperands (grammar : Grammar) (found : Found) : List String → Scan
  | [] => .finished found
  | argument :: rest =>
      if grammar.operands then scanOperands grammar (found.addOperand argument) rest
      else .stopped .misuse

/-- Scans a line. An option that still waits for its value takes the next argument, unless that looks
like an option. -/
def scan (grammar : Grammar) (found : Found) (waiting : Option String) : List String → Scan
  | [] => .finished found
  | argument :: rest =>
      match Shape.ofArgument argument, waiting with
      | .endOfOptions, _ => grammar.scanOperands found rest
      | .long name value, _ =>
          if name = "help" then .stopped .help
          else if name = "version" then .stopped .version
          else
            match grammar.option? name with
            | none => .stopped .misuse
            | some spec =>
                let found := found.give name
                match spec.takesValue, value with
                | false, _ => scan grammar found none rest
                | true, some value => scan grammar (found.addValue name value) none rest
                | true, none => scan grammar found (some name) rest
      | .short letters, _ =>
          .stopped (match letters.head? with
            | some 'h' => .help
            | some 'V' => .version
            | _ => .misuse)
      | .plain, some name => scan grammar (found.addValue name argument) none rest
      | .plain, none =>
          if grammar.subcommands.contains argument then .subcommand found argument rest
          else if grammar.operands then scan grammar (found.addOperand argument) none rest
          else .stopped .misuse

end Grammar

end HeapInspector.CommandLine
