import HeapInspector.Text.Blank

/-!
Commands of the interactive loop. A line that is no command is a word to describe.
-/

namespace HeapInspector.Repl

inductive Command where
  /-- Describe the word in the text. -/
  | describe (text : String)
  /-- List the fields of the object that the word in the text references. -/
  | fields (text : String)
  /-- Show as many levels of fields as the text says. -/
  | setDepth (text : String)
  | help
  | quit
  | blank
  deriving DecidableEq, Repr

namespace Command

def fieldsName : String := "/fields "
def depthName : String := "/depth "
def helpName : String := "/help"
def quitName : String := "/quit"

/-- The text behind a leading part, if a text starts with it. -/
def argument? (name line : String) : Option String :=
  if name.toList.isPrefixOf line.toList then
    some (String.ofList (line.toList.drop name.toList.length))
  else none

/-- The command in a line. A command with an argument is recognised at the very start of the line
only, one without is recognised with white space around it. -/
def parse (line : String) : Command :=
  match argument? fieldsName line, argument? depthName line with
  | some text, _ => fields text
  | none, some text => setDepth text
  | none, none =>
      let trimmed := String.ofList (Blank.trim line.toList)
      if trimmed = helpName then help
      else if trimmed = quitName then quit
      else if trimmed = "" then blank
      else describe line

end Command

/-- The summary of the commands. -/
def helpText : String :=
  "Available REPL commands:\n" ++
  "\n" ++
  "<word>            Describes the tagged value\n" ++
  "/fields <word>    Lists the fields of the object the value references\n" ++
  "/depth <n>        Sets how many levels of fields are shown\n" ++
  "/help             Prints this summary\n" ++
  "/quit             Exits the REPL\n"

end HeapInspector.Repl
