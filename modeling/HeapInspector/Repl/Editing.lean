import HeapInspector.Failure
import HeapInspector.Repl.Command
import HeapInspector.Text.Style
import HeapInspector.Text.Utf8

/-!
Help with the editing of a line: completion, hints and colours. Words are free in form, so only
commands are completed and checked, and they stand only at the start of a line.
-/

namespace HeapInspector.Repl

/-- A line with a cursor, whose place is counted in bytes from the start of the line. -/
structure EditedLine where
  text : List Char
  cursor : Nat
  deriving DecidableEq, Repr

def EditedLine.atEnd (text : List Char) : EditedLine := ⟨text, Utf8.size text⟩

def EditedLine.isAtEnd (line : EditedLine) : Bool := line.cursor = Utf8.size line.text

/-- The text in front of the cursor. There is none if the cursor stands outside the line or within
a character. -/
def EditedLine.beforeCursor? (line : EditedLine) : Option (List Char) :=
  Utf8.take? line.text line.cursor

@[simp] theorem EditedLine.beforeCursor?_atEnd (text : List Char) :
    (atEnd text).beforeCursor? = some text := Utf8.take?_size text

/-- The names of the commands, in ascending order. A name ends in a blank if an argument follows. -/
def commandNames : List (List Char) :=
  [Command.depthName, Command.fieldsName, Command.helpName, Command.quitName].map String.toList

/-- The members of an ascending list that start with a text: from the place at which the text itself
would stand, for as long as they do. -/
def startingWith (names : List (List Char)) (text : List Char) : List (List Char) :=
  (names.dropWhile (· < text)).takeWhile (text.isPrefixOf ·)

/-- Whether a text can only be the start of a command's name. -/
def isCommandStart (text : List Char) : Bool := text.head? = some '/' && !text.contains ' '

/-- The commands that the text in front of the cursor may become. The line editor promises that the
cursor stands between two characters of the line. -/
def complete (line : EditedLine) : Except Defect (List (List Char)) :=
  match line.beforeCursor? with
  | none => .error .indexOutOfBounds
  | some before => .ok (if isCommandStart before then startingWith commandNames before else [])

/-- The rest of the first command that the line may become, while the cursor is at its end. -/
def hint? (line : EditedLine) : Option (List Char) :=
  if line.isAtEnd && isCommandStart line.text then
    ((startingWith commandNames line.text).find? (·.length ≠ line.text.length)).map
      (·.drop line.text.length)
  else none

def startsLikeCommand (text : List Char) : Bool := text.head? = some '/'

/-- Whether a line starts with the name of a command. -/
def startsWithCommand (text : List Char) : Bool :=
  commandNames.any fun name => (Blank.trimEnd name).isPrefixOf text

/-- The line in colours: one that looks like a command and starts with none is an error. -/
def highlight (text : String) : String :=
  if startsLikeCommand text.toList && !startsWithCommand text.toList then Style.boldRed.paint text
  else text

/-- What is shown in front of a line. -/
def prompt : String := "zis> "

def highlightPrompt (text : String) : String := Style.deepBlue.paint text

def highlightHint (text : String) : String := Style.dimmed.paint text

/-- Whether the colours of a line can change with a single character. -/
def highlightsCharacters (text : String) : Bool := startsLikeCommand text.toList

end HeapInspector.Repl
