/-!
Lines of text. A line feed ends a line, and a carriage return in front of it belongs to the ending.
What follows the last line feed is a line if it is not empty, and keeps its carriage return.
-/

namespace HeapInspector.Lines

/-- The line whose characters are held in reverse, without a carriage return at its end. -/
def finish : List Char → List Char
  | '\r' :: line => line.reverse
  | line => line.reverse

/-- The lines of a text that begins within a line. What is known of that line is held in reverse. -/
def splitFrom (line : List Char) : List Char → List (List Char)
  | [] => if line.isEmpty then [] else [line.reverse]
  | c :: rest => if c = '\n' then finish line :: splitFrom [] rest else splitFrom (c :: line) rest

def split (text : String) : List String := (splitFrom [] text.toList).map String.ofList

end HeapInspector.Lines
