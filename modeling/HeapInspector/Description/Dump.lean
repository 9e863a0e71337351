import HeapInspector.Description
import HeapInspector.Text.Literal

/-!
Descriptions in full, for developers: every part under its name, and numbers in decimal.
-/

namespace HeapInspector

/-- A name and the parts that belong to it, each under its own name. -/
def dumpRecord (name : String) (parts : List (String × String)) : String :=
  name ++ " \x7b " ++ ", ".intercalate (parts.map fun (label, text) => label ++ ": " ++ text) ++
    " \x7d"

/-- A name and the one part that belongs to it. -/
def dumpPart (name part : String) : String := name ++ "(" ++ part ++ ")"

def GcState.dump : GcState → String
  | new => "New"
  | mid => "Mid"
  | old => "Old"
  | big => "Big"

def TypeName.dump : TypeName → String
  | named name => dumpPart "Resolved" (Literal.quote name)
  | unnamed address => dumpPart "Opaque" (Numeral.decimal address)

def ObjectHeader.dump (header : ObjectHeader) : String :=
  dumpRecord "ObjectHeader" [("type_addr", Numeral.decimal header.typeAddress),
    ("gc_state", header.gcState.dump), ("marked", FieldValue.displayBool header.marked),
    ("gc_ptr", Numeral.decimal header.gcPointer)]

def ObjectDescription.dump (d : ObjectDescription) : String :=
  dumpRecord "ObjectDescription" [("address", Numeral.decimal d.address),
    ("type_name", d.typeName.dump), ("header", d.header.dump)]

/-- The located fields are shown by the object that they belong to; none of them is read. -/
def ObjectDescription.dumpFields (d : ObjectDescription) : String :=
  dumpPart "Fields" (Numeral.hex d.address)

def Description.dump : Description → String
  | null => "Null"
  | smallInt value => dumpPart "SmallInt" (Numeral.signedDecimal value)
  | object description => description.dump

end HeapInspector
