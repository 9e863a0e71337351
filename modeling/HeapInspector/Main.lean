import HeapInspector.CommandLine.Run
import HeapInspector.Host.Process
import HeapInspector.Repl.Editing

/-!
The program: its arguments, the files it reads, the terminal, and the exit code. Everything that it
says is decided by the modules above; here it is only carried to and fro.
-/

namespace HeapInspector.Program

open CommandLine Repl

/-- The number of an error of the system. Some of them come with their sign turned. -/
def systemCode (code : UInt32) : Nat := min code.toNat ((1 <<< 32) - code.toNat)

def fileFault : IO.Error → FileFault
  | .noFileOrDirectory .. => .missing
  | .inappropriateType _ code _ => if systemCode code = 20 then .notDirectory else .isDirectory
  | .invalidArgument _ code _ => if systemCode code = 36 then .nameTooLong else .zeroInName
  | .permissionDenied .. => .other "Permission denied (os error 13)"
  | .userError _ => .notText
  | other => .other (toString other)

def readText (path : String) : IO (Except FileFault String) := do
  match ← (IO.FS.readFile path).toBaseIO with
  | .ok text => return .ok text
  | .error error => return .error (fileFault error)

/-- The file of types that the arguments name. Without one there is nothing to read. -/
def readTypesFile (arguments : List String) : IO (Except FileFault String) := do
  match readArguments arguments with
  | .inspect { typesFile := some path, .. } => readText path
  | _ => return .error .missing

/-- Whether a process exists. Its memory cannot be read from here: there is no call for that, so it
counts as guarded. -/
def findProcess (number : Int) : IO ProcessState := do
  match ← readText ("/proc/" ++ Numeral.signedDecimal number ++ "/stat") with
  | .ok _ => return .guarded
  | .error _ => return .missing

def write (output : Output) : IO Unit := do
  let out ← IO.getStdout
  out.putStr output.out
  out.flush
  (← IO.getStderr).putStr output.err

/-- Asks the process, and logs the request if that is wanted. -/
def ask (process : ProcessState) (trace : Bool) (request : Request) : IO Response := do
  if trace then
    write (.complain ("TRACE read " ++ Numeral.decimal request.size ++ " bytes at " ++
      Numeral.hex request.address))
  return process.host [] request

/-- The exit code that stands for a failure of the program itself. -/
def defectCode : UInt32 := 101

def reportFailure : Failure → IO UInt32
  | .error error => do
      write (.complain ("error: " ++ error.message))
      return 1
  | .defect defect => do
      write (.complain defect.message)
      return defectCode

/-- Makes the directory of the history, if one is needed. -/
def makeDirectory (path : String) : IO Bool := do
  match ← (IO.FS.createDirAll path).toBaseIO with
  | .ok _ => return true
  | .error _ => return false

def findHistory : IO (Option String) := do
  let explicit ← IO.getEnv "ZIS_INSPECT_HISTORY"
  let directory := History.dataDirectory (← IO.getEnv "XDG_DATA_HOME") (← IO.getEnv "HOME")
  let wanted := (History.locate explicit directory fun _ => true).madeDirectory
  let made ← match wanted with
    | some path => makeDirectory path
    | none => pure false
  return (History.locate explicit directory fun _ => made).path

def loadHistory (path : Option String) : IO KeptHistory := do
  match path with
  | none => return .ofFile ""
  | some path =>
      match ← readText path with
      | .ok text => return .ofFile text
      | .error _ => return .ofFile ""

/-- A history that cannot be kept is given up without a word. -/
def saveHistory (path : Option String) (kept : KeptHistory) : IO Unit := do
  match path with
  | some path => let _ ← (IO.FS.writeFile path kept.file).toBaseIO
  | none => return ()

def showPrompt : IO Unit := do
  if ← (← IO.getStdin).isTty then write (.print (highlightPrompt prompt))

/-- Answers one line after the other until the input ends or a line says to quit. -/
partial def converse (setup : Setup) (process : ProcessState) (path : Option String)
    (state : State) : IO UInt32 := do
  showPrompt
  match readLines (← (← IO.getStdin).getLine) with
  | [] => return 0
  | line :: _ =>
      let answered ← (loop setup.introspector state [line]).through (ask process setup.trace)
      match answered with
      | .error failure => reportFailure failure
      | .ok (next, output) =>
          write output
          match state.history, next.history with
          | some before, some after => if before.file ≠ after.file then saveHistory path after
          | _, _ => pure ()
          if Command.parse line = .quit then return 0
          else converse setup process path next

def inspect (setup : Setup) : IO UInt32 := do
  let process ← findProcess setup.process
  match setup.plan with
  | .describe .. =>
      match ← (setup.execute "").through (ask process setup.trace) with
      | .ok finished =>
          write finished.output
          return UInt32.ofNat finished.code
      | .error failure => reportFailure failure
  | .repl =>
      let path ← findHistory
      converse setup process path ⟨defaultDepth, some (← loadHistory path)⟩

def run (arguments : List String) : IO UInt32 := do
  let types ← readTypesFile arguments
  match start (fun _ => types) arguments with
  | .help =>
      write (.print usage)
      return 0
  | .version text =>
      write (.print (text ++ "\n"))
      return 0
  | .misuse =>
      write ⟨"", usage⟩
      return 1
  | .rejected fault =>
      write (.complain ("error: " ++ fault.message))
      return 1
  | .ready setup => inspect setup

end HeapInspector.Program

def main (arguments : List String) : IO UInt32 := HeapInspector.Program.run arguments
