import HeapInspector.Decoder.Extent

/-!
Byte strings: the stored size, the length of the data, and exactly that much data.
-/

namespace HeapInspector.Decoder

/-- The number of words in front of the data of a byte string. -/
def bytesFixedWords : Nat := 2

/-- The stored length of the data, checked against the stored size. -/
def readBytesLayout (object : ObjectRef) : Inquiry Nat := do
  match ← object.readWords object.bodyOffset bytesFixedWords with
  | stored :: size :: _ => object.checkDataSize stored bytesFixedWords size
  | _ => Inquiry.defect .indexOutOfBounds

def readData (object : ObjectRef) (size : Nat) : Inquiry Bytes := do
  object.readBytes (← object.bodyWordOffset bytesFixedWords) size

def bytes : Decoder where
  value object := do
    let size ← readBytesLayout object
    return some (Escaped.quote (← readData object size))
  fields object := do
    let size ← readBytesLayout object
    return Fields.known "size" (.unsigned size) ++
      Fields.one "data" (do return .bytes (← readData object size))

end HeapInspector.Decoder
