import HeapInspector.Memory
import HeapInspector.Tagged
import HeapInspector.Object.Header

/-!
An object that is being decoded: its address, its header, and reads at offsets into it.
-/

namespace HeapInspector

/-- The largest payload that is read at once. A greater size is a sign of corrupt memory. -/
def maxPayloadSize : Nat := 16 * 1024 * 1024

structure ObjectRef where
  arch : Architecture
  address : Nat
  header : ObjectHeader
  deriving DecidableEq, Repr

namespace Architecture

/-- The size of an object's header: two words. -/
def headerSize (arch : Architecture) : Nat := 2 * arch.wordSize

/-- Both words of a header, from a single read. -/
def readHeader (arch : Architecture) (address : Nat) : Inquiry ObjectHeader := do
  match ← arch.readWords address 2 with
  | first :: second :: _ => return ObjectHeader.ofWords first second
  | _ => Inquiry.defect .indexOutOfBounds

end Architecture

namespace ObjectRef

def wordSize (object : ObjectRef) : Nat := object.arch.wordSize

/-- Where the payload starts, counted from the start of the object. -/
def bodyOffset (object : ObjectRef) : Nat := object.arch.headerSize

/-- The offset of a word of the payload. -/
def bodyWordOffset (object : ObjectRef) (index : Nat) : Inquiry Nat :=
  Inquiry.natural (object.bodyOffset + index * object.wordSize)

def addressAt (object : ObjectRef) (offset size : Nat) : Inquiry Nat :=
  Architecture.offsetAddress object.address offset size

def readWord (object : ObjectRef) (offset : Nat) : Inquiry Nat := do
  let address ← object.addressAt offset object.wordSize
  object.arch.readWord address

def readWords (object : ObjectRef) (offset count : Nat) : Inquiry (List Nat) := do
  let size ← Inquiry.natural (count * object.wordSize)
  let address ← object.addressAt offset size
  object.arch.readWords address count

def readBytes (object : ObjectRef) (offset size : Nat) : Inquiry Bytes := do
  let address ← object.addressAt offset size
  Inquiry.bytes address size

/-- The payload contradicts itself. -/
def inconsistent {α : Type} (object : ObjectRef) (kind : Inconsistency) : Inquiry α :=
  Inquiry.error (.decode object.address kind)

/-- The value of a word that has to hold a small integer. -/
def expectSmallInt (object : ObjectRef) (word : Nat) : Inquiry Int :=
  match Tagged.classify object.arch.width word with
  | .smallInt _ => Inquiry.integer (decodeSmallInt object.arch.width word)
  | _ => object.inconsistent (.notSmallInt word)

/-- A size that the payload of a real object can have. -/
def checkPayloadSize (object : ObjectRef) (size : Nat) : Inquiry Nat :=
  if maxPayloadSize < size then object.inconsistent (.implausibleSize size) else .done size

/-- The value of a word, as it stands. -/
def classify (object : ObjectRef) (word : Nat) : Tagged := Tagged.classify object.arch.width word

end ObjectRef

end HeapInspector
