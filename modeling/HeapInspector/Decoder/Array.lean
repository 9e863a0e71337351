import HeapInspector.Decoder.Slots

/-!
Arrays: a reference to an object with slots, which may have room to spare, and the length.
-/

namespace HeapInspector.Decoder

def readArrayLength (object : ObjectRef) : Inquiry Nat := do
  object.readWord (← object.bodyWordOffset 1)

/-- The object that holds the elements, and how many of them the array uses. The header of the
storage and its slot count come from a single read. -/
def readArrayStorage (object : ObjectRef) : Inquiry (ObjectRef × Nat) := do
  match ← object.readWords object.bodyOffset 2 with
  | data :: length :: _ =>
      match object.classify data with
      | .reference address =>
          match ← object.arch.readWords address 3 with
          | first :: second :: stored :: _ =>
              let storage : ObjectRef := ⟨object.arch, address, ObjectHeader.ofWords first second⟩
              let capacity ← elementCount storage stored
              if capacity < length then
                object.inconsistent (.lengthExceedsStorage length capacity)
              else return (storage, length)
          | _ => Inquiry.defect .indexOutOfBounds
      | _ => object.inconsistent (.notReference data)
  | _ => Inquiry.defect .indexOutOfBounds

def array : Decoder where
  value object := do return some (elementName (← readArrayLength object))
  fields object := do
    let (storage, length) ← readArrayStorage object
    return elements storage length

end HeapInspector.Decoder
