import HeapInspector.Decoder.Symbol

/-!
Strings: the stored size, a packed length, and the elements. Elements of one byte are UTF-8; wider
ones hold one character each. The text has exactly the stored length, and a zero does not end it.
-/

namespace HeapInspector.Decoder

/-- The number of words in front of the data of a string. -/
def textFixedWords : Nat := 2

/-- A length in elements, with the size of an element in bytes. -/
structure PackedLength where
  elementSize : Nat
  count : Nat
  deriving DecidableEq, Repr

namespace PackedLength

/-- The two low bits hold the size of an element less one, the other bits the count. -/
def unpack (word : Nat) : PackedLength := ⟨word % 4 + 1, word / 4⟩

/-- The size of the elements. It has no more bits than the packed word, so it always fits. -/
def dataSize (packed : PackedLength) : Inquiry Nat :=
  Inquiry.natural (packed.count * packed.elementSize)

end PackedLength

/-- The packed length and the size of the data, checked against the stored size. -/
def readTextLayout (object : ObjectRef) : Inquiry (PackedLength × Nat) := do
  match ← object.readWords object.bodyOffset textFixedWords with
  | stored :: packed :: _ =>
      let packed := PackedLength.unpack packed
      let dataSize ← packed.dataSize
      return (packed, ← object.checkDataSize stored textFixedWords dataSize)
  | _ => Inquiry.defect .indexOutOfBounds

/-- The character with the given code point. -/
def decodeCodePoint (object : ObjectRef) (code : Nat) : Inquiry Char :=
  if code.isValidChar then .done (Char.ofNat code)
  else object.inconsistent (.invalidCodePoint code)

def readText (object : ObjectRef) (packed : PackedLength) (size : Nat) : Inquiry String := do
  let offset ← object.bodyWordOffset textFixedWords
  let data ← object.readBytes offset size
  if packed.elementSize = 1 then decodeUtf8 object data
  else
    let characters ← Inquiry.forEach
      (fun element => do decodeCodePoint object (← object.arch.decodeUnsigned element))
      (pieces packed.elementSize data)
    return String.ofList characters

def string : Decoder where
  value object := do
    let (packed, size) ← readTextLayout object
    return some (Quoted.quote (← readText object packed size))
  fields object := do
    let (packed, size) ← readTextLayout object
    return Fields.known "length" (.unsigned packed.count) ++
      Fields.known "element_size" (.unsigned packed.elementSize) ++
      Fields.one "text" (do return .text (← readText object packed size))

end HeapInspector.Decoder
