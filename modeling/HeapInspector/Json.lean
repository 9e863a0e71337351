import HeapInspector.Text.Quoted

/-!
Values of the JSON data format, and their two printed forms. Members of an object keep their order.
-/

namespace HeapInspector

inductive Json where
  | null
  | bool (value : Bool)
  | integer (value : Int)
  | string (value : String)
  | array (items : List Json)
  | object (members : List (String × Json))

namespace Json

mutual

/-- The value on one line, without blanks. -/
def compact : Json → String
  | null => "null"
  | bool value => if value then "true" else "false"
  | integer value => Numeral.signedDecimal value
  | string value => Quoted.quote value
  | array items => "[" ++ ",".intercalate (compactItems items) ++ "]"
  | object members => "\x7b" ++ ",".intercalate (compactMembers members) ++ "\x7d"

def compactItems : List Json → List String
  | [] => []
  | item :: rest => item.compact :: compactItems rest

def compactMembers : List (String × Json) → List String
  | [] => []
  | (name, value) :: rest => (Quoted.quote name ++ ":" ++ value.compact) :: compactMembers rest

end

/-- Items one to a line between brackets, two blanks further in than the brackets. -/
def block (opening closing : String) (level : Nat) (items : List String) : String :=
  if items.isEmpty then opening ++ closing
  else
    let indent := String.ofList (List.replicate (2 * level) ' ')
    opening ++ "\n" ++ ",\n".intercalate (items.map ("  " ++ indent ++ ·)) ++ "\n" ++ indent ++
      closing

mutual

/-- The value over several lines. Its first line is not indented, the others by the level. -/
def pretty (level : Nat) : Json → String
  | array items => block "[" "]" level (prettyItems (level + 1) items)
  | object members => block "\x7b" "\x7d" level (prettyMembers (level + 1) members)
  | value => value.compact

def prettyItems (level : Nat) : List Json → List String
  | [] => []
  | item :: rest => item.pretty level :: prettyItems level rest

def prettyMembers (level : Nat) : List (String × Json) → List String
  | [] => []
  | (name, value) :: rest =>
      (Quoted.quote name ++ ": " ++ value.pretty level) :: prettyMembers level rest

end

end Json

end HeapInspector
