import HeapInspector.Text.Lines

/-!
The history of entered lines and the file that it is kept in. The first line of the file is a mark;
each further line is an entry, in which a backslash and a line feed are escaped. A file without the
mark is read as plain entries.
-/

namespace HeapInspector.Repl

/-- The entries, the oldest one first. -/
structure History where
  entries : List String
  deriving DecidableEq, Repr

namespace History

def empty : History := ⟨[]⟩

/-- The greatest number of entries that are kept. -/
def limit : Nat := 100

/-- The history with one more entry, at the cost of the oldest one if there are too many. An empty
line and one that repeats the entry before it are not entered. -/
def add? (history : History) (line : String) : Option History :=
  if line = "" ∨ history.entries.getLast? = some line then none
  else
    let entries := history.entries ++ [line]
    some ⟨entries.drop (entries.length - limit)⟩

def mark : String := "#V2"

def escapeChar (c : Char) : List Char :=
  if c = '\\' then ['\\', '\\'] else if c = '\n' then ['\\', 'n'] else [c]

/-- An entry as a line of the file. -/
def escape (entry : String) : String := String.ofList (entry.toList.flatMap escapeChar)

/-- The entry in a line, unless a backslash in it escapes nothing. -/
def unescape? : List Char → Option (List Char)
  | [] => some []
  | '\\' :: 'n' :: rest => (unescape? rest).map ('\n' :: ·)
  | '\\' :: '\\' :: rest => (unescape? rest).map ('\\' :: ·)
  | '\\' :: _ => none
  | c :: rest => (unescape? rest).map (c :: ·)

/-- The entry in a line of a marked file. A line that was not escaped stands for itself. -/
def unescape (line : String) : String := ((unescape? line.toList).map String.ofList).getD line

/-- The text of the file. -/
def toText (history : History) : String :=
  mark ++ "\n" ++ String.join (history.entries.map fun entry => escape entry ++ "\n")

def addAll (history : History) (lines : List String) : History :=
  lines.foldl (fun history line => (history.add? line).getD history) history

def ofText (text : String) : History :=
  match Lines.split text with
  | [] => empty
  | first :: rest =>
      if first = mark then empty.addAll ((rest.filter (· ≠ "")).map unescape)
      else empty.addAll (first :: rest)

/-- A place to keep the history in. -/
structure Location where
  path : Option String
  /-- The directory that is made for it. -/
  madeDirectory : Option String
  deriving DecidableEq, Repr

/-- A path within a directory. -/
def within (directory name : String) : String :=
  if directory.toList.getLast? = some '/' then directory ++ name else directory ++ "/" ++ name

/-- Where data of the user is kept: in the directory that was chosen for that, if it is given in
full, and else in the usual place under the home directory. -/
def dataDirectory (chosen home : Option String) : Option String :=
  (chosen.filter (·.toList.head? = some '/')).or (home.map (within · ".local/share"))

/-- The file of the history. An explicit choice wins, and an empty one means none. Otherwise the file
is in a directory of its own; if that cannot be made, there is no history. -/
def locate (explicit directory : Option String) (canMake : String → Bool) : Location :=
  match explicit with
  | some path => ⟨if path = "" then none else some path, none⟩
  | none =>
      match directory.map (within · "zis-inspect") with
      | none => ⟨none, none⟩
      | some directory =>
          if canMake directory then ⟨some (within directory "inspect-history"), some directory⟩
          else ⟨none, none⟩

end History

end HeapInspector.Repl
