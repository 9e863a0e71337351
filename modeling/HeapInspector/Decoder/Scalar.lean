import HeapInspector.Field

/-!
Objects that hold one value, or nothing, behind their header.
-/

namespace HeapInspector.Decoder

/-- One byte; anything but zero counts as true. -/
def readBool (object : ObjectRef) : Inquiry Bool := do
  match ← object.readBytes object.bodyOffset 1 with
  | byte :: _ => return byte ≠ 0
  | [] => Inquiry.defect .indexOutOfBounds

def bool : Decoder where
  value object := do return some (FieldValue.displayBool (← readBool object))
  fields object := return Fields.one "value" (do return .bool (← readBool object))

/-- A floating-point number of eight bytes, at every word width. -/
def readFloat (object : ObjectRef) : Inquiry Binary64 := do
  let address ← object.addressAt object.bodyOffset 8
  return ⟨← object.arch.readFloatBits address⟩

def float : Decoder where
  value object := do return some (← readFloat object).text
  fields object := return Fields.one "value" (do return .float (← readFloat object))

/-- An object that is only a header. -/
def nil : Decoder where
  value _ := return some "nil"
  fields _ := return Fields.none

end HeapInspector.Decoder
