import HeapInspector.Output
import HeapInspector.Rendering
import HeapInspector.Repl.Backspace
import HeapInspector.Repl.Command
import HeapInspector.Repl.History
import HeapInspector.TypeTable.WordText

/-!
The interactive loop. It reads lines until one says to quit, and answers each with text or with one
error. No answer depends on an earlier line except through the depth.
-/

namespace HeapInspector.Repl

/-- A history with the text of its file. -/
structure KeptHistory where
  history : History
  file : String
  deriving DecidableEq, Repr

def KeptHistory.ofFile (text : String) : KeptHistory := ⟨History.ofText text, text⟩

/-- Enters a line, unless it is blank. The file is written only when there is a new entry. -/
def KeptHistory.enter (kept : KeptHistory) (line : String) : KeptHistory :=
  if line.toList.all Blank.isBlank then kept
  else
    match kept.history.add? line with
    | some history => ⟨history, history.toText⟩
    | none => kept

structure State where
  depth : Nat
  history : Option KeptHistory
  deriving DecidableEq, Repr

/-- The depth in a text, with white space around it. -/
def readDepth? (text : String) : Option Nat :=
  (Numeral.readUnsigned 10 machineBound (Blank.trim text.toList)).toOption

/-- A message about a mistake in the input. -/
def mistake (message : String) : Output := .complain (Style.boldRed.paint message)

/-- Describes the word in a text and shows the description. -/
def answerWord (i : Introspector) (text : String)
    (present : Description → Inquiry Rendering) : Inquiry Output :=
  match parseWord text with
  | .error fault => return mistake fault.message
  | .ok word => do
      match ← (i.describe word).attempt with
      | .error error => return .complain ((Rendering.message error).text .coloured)
      | .ok description => return .print ((← present description).text .coloured)

/-- The depth in force after a command. -/
def Command.depthAfter (depth : Nat) : Command → Nat
  | .setDepth text => (readDepth? text).getD depth
  | _ => depth

/-- What a command is answered with while a depth is in force. Fields alone take one level at
least. -/
def Command.answer (i : Introspector) (depth : Nat) : Command → Inquiry Output
  | .describe text => answerWord i text (i.render depth)
  | .fields text => answerWord i text (i.renderOnlyFields (max depth 1))
  | .setDepth text =>
      match readDepth? text with
      | some _ => return .empty
      | none =>
          return mistake ("invalid depth `" ++ String.ofList (Blank.trim text.toList) ++ "`")
  | .help => return .print helpText
  | .quit => return .empty
  | .blank => return .empty

/-- Runs through lines up to the first one that says to quit. -/
def loop (i : Introspector) (state : State) : List String → Inquiry (State × Output)
  | [] => return (state, .empty)
  | line :: rest => do
      let history := state.history.map (·.enter line)
      match Command.parse line with
      | .quit => return ({ state with history }, .empty)
      | command =>
          let first ← command.answer i state.depth
          let (state, second) ← loop i ⟨command.depthAfter state.depth, history⟩ rest
          return (state, first ++ second)

/-- The lines of an input, with their backspaces at work. -/
def readLines (input : String) : List String := (Lines.split input).map applyBackspaces

/-- Runs through the lines of an input. -/
def run (i : Introspector) (state : State) (input : String) : Inquiry (State × Output) :=
  loop i state (readLines input)

end HeapInspector.Repl
