import HeapInspector.Field

/-!
Objects that are a row of slots. The first slot holds the number of slots as a small integer and
counts itself; the slots behind it are the elements.
-/

namespace HeapInspector.Decoder

/-- The number of elements that a stored slot count leaves. -/
def elementCount (object : ObjectRef) (stored : Nat) : Inquiry Nat := do
  let count ← object.expectSmallInt stored
  if count < 1 then object.inconsistent (.invalidSlotCount count)
  else
    let length := (← Inquiry.integer (count - 1)).toNat
    if length * object.wordSize < machineBound then
      let _ ← object.checkPayloadSize (length * object.wordSize)
      return length
    else object.inconsistent (.implausibleSize length)

def readElementCount (object : ObjectRef) : Inquiry Nat := do
  elementCount object (← object.readWord object.bodyOffset)

/-- The number of an element, in brackets. -/
def elementName (index : Nat) : String := "[" ++ Numeral.decimal index ++ "]"

/-- The elements behind the count, each read on its own. -/
def elements (storage : ObjectRef) (length : Nat) : Fields where
  count := length
  name := elementName
  value index := do
    let offset ← storage.bodyWordOffset (index + 1)
    return .tagged (storage.classify (← storage.readWord offset))

def slots : Decoder where
  value object := do return some (elementName (← readElementCount object))
  fields object := do return elements object (← readElementCount object)

end HeapInspector.Decoder
