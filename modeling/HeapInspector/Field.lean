import HeapInspector.Binary64
import HeapInspector.Object
import HeapInspector.Text.Escaped
import HeapInspector.Text.Quoted

/-!
Fields and the decoders that find them. A decoder looks at an object in two ways: it gives a short
value, and it locates the fields. The located fields are lazy. Each is an inquiry of its own, so one
that cannot be read leaves the others alone.
-/

namespace HeapInspector

inductive FieldValue where
  /-- A tagged value, which can be described in turn. -/
  | tagged (value : Tagged)
  | bool (value : Bool)
  | int (value : Int)
  | unsigned (value : Nat)
  | float (value : Binary64)
  | text (value : String)
  | bytes (value : Bytes)
  /-- What stands in the place of a field that cannot be decoded. -/
  | unavailable (error : Error)
  deriving DecidableEq, Repr

namespace FieldValue

def tagged? : FieldValue → Option Tagged
  | tagged value => some value
  | _ => none

def isUnavailable : FieldValue → Bool
  | unavailable _ => true
  | _ => false

/-- Whether another object can be found behind the field. -/
def isReference (value : FieldValue) : Bool := value.tagged?.any Tagged.isReference

def displayBool : Bool → String
  | true => "true"
  | false => "false"

def display : FieldValue → String
  | tagged value => value.display
  | bool value => displayBool value
  | int value => Numeral.signedDecimal value
  | unsigned value => Numeral.decimal value
  | float value => value.text
  | text value => Quoted.quote value
  | bytes value => Escaped.quote value
  | unavailable error => "<decode error: " ++ error.message ++ ">"

end FieldValue

structure Field where
  name : String
  value : FieldValue
  deriving DecidableEq, Repr

/-- The located fields of an object. Only members below `count` are fields. -/
structure Fields where
  count : Nat
  name : Nat → String
  value : Nat → Inquiry FieldValue

namespace Fields

def none : Fields := ⟨0, fun _ => "", fun _ => .fail (.defect .indexOutOfBounds)⟩

def one (name : String) (value : Inquiry FieldValue) : Fields := ⟨1, fun _ => name, fun _ => value⟩

def append (first second : Fields) : Fields where
  count := first.count + second.count
  name index :=
    if index < first.count then first.name index else second.name (index - first.count)
  value index :=
    if index < first.count then first.value index else second.value (index - first.count)

instance : Append Fields := ⟨append⟩

/-- A field whose value is known already. -/
def known (name : String) (value : FieldValue) : Fields := one name (.done value)

/-- One field. An error becomes its value. -/
def field (fields : Fields) (index : Nat) : Inquiry Field := do
  match ← (fields.value index).attempt with
  | .ok value => return ⟨fields.name index, value⟩
  | .error error => return ⟨fields.name index, .unavailable error⟩

/-- All fields, in order. -/
def all (fields : Fields) : Inquiry (List Field) :=
  Inquiry.forEach fields.field (List.range fields.count)

end Fields

/-- A rule for objects of one shape. -/
structure Decoder where
  /-- A short form of the object's value, for shapes that have one. -/
  value : ObjectRef → Inquiry (Option String)
  /-- Locates the fields. Whatever has to be read for that is read here, and nothing else. -/
  fields : ObjectRef → Inquiry Fields

end HeapInspector
