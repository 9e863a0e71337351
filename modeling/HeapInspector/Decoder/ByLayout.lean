import HeapInspector.Decoder.TypeDescriptor

/-!
Objects of any type, by the layout that the type declares. Every slot is shown as it stands, the
count in front of extendable slots included, and then the bytes without interpretation.
-/

namespace HeapInspector.Decoder

/-- The number of slots, the count itself included if the slots are extendable. -/
def readSlotCount (object : ObjectRef) (slots : PartSize) : Inquiry Nat := do
  let count ← match slots with
    | .fixed count => pure count
    | .extendable => do
        let count ← object.expectSmallInt (← object.readWord object.bodyOffset)
        if count < 1 then object.inconsistent (.invalidSlotCount count)
        else pure count.toNat
  if count * object.wordSize < machineBound then
    let _ ← object.checkPayloadSize (count * object.wordSize)
    return count
  else object.inconsistent (.implausibleSize count)

/-- Where the bytes lie in an object, and how many they are. -/
structure BytesPart where
  offset : Nat
  size : Nat
  deriving DecidableEq, Repr

/-- Finds the bytes behind the slots. Extendable bytes start with a word that holds the size of the
part and counts itself. -/
def locateBytes (object : ObjectRef) (bytes : PartSize) (slotCount : Nat) : Inquiry BytesPart := do
  let offset ← object.bodyWordOffset slotCount
  match bytes with
  | .fixed size => return ⟨offset, ← object.checkPayloadSize size⟩
  | .extendable =>
      let total ← object.readWord offset
      if total < object.wordSize then object.inconsistent (.implausibleSize total)
      else
        let start ← Inquiry.natural (offset + object.wordSize)
        return ⟨start, ← object.checkPayloadSize (total - object.wordSize)⟩

def slotName (index : Nat) : String := "slot[" ++ Numeral.decimal index ++ "]"

/-- The slots as tagged values, each read on its own. -/
def rawSlots (object : ObjectRef) (count : Nat) : Fields where
  count := count
  name := slotName
  value index := do
    let word ← object.readWord (← object.bodyWordOffset index)
    return .tagged (object.classify word)

/-- The bytes as one field, unless there are none. -/
def rawBytes (object : ObjectRef) (part : BytesPart) : Fields :=
  if part.size = 0 then Fields.none
  else Fields.one "bytes" (do return .bytes (← object.readBytes part.offset part.size))

def byLayout : Decoder where
  value _ := return none
  fields object := do
    let layout ← TypeLayout.read object.arch object.header.typeAddress
    let slotCount ← readSlotCount object layout.slots
    let part ← locateBytes object layout.bytes slotCount
    return rawSlots object slotCount ++ rawBytes object part

end HeapInspector.Decoder
