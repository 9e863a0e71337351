import HeapInspector.Field

/-!
Type descriptors: three references to tables, then the number of slots, the number of bytes and the
size of the objects of the type.
-/

namespace HeapInspector

/-- The size of one part of an object, as its type declares it. -/
inductive PartSize where
  | fixed (size : Nat)
  /-- Each object stores the size of the part at its start. -/
  | extendable
  deriving DecidableEq, Repr

/-- A part is extendable if its size is minus one, read as a signed word. -/
def PartSize.ofWord (width : Width) (word : Nat) : PartSize :=
  if width.toSigned word = -1 then extendable else fixed word

/-- The two parts of an object: its slots, and the bytes behind them. -/
structure TypeLayout where
  slots : PartSize
  bytes : PartSize
  deriving DecidableEq, Repr

namespace TypeLayout

/-- The place of the number of slots among the words of a descriptor. -/
def slotsIndex : Nat := 3

/-- The layout in the descriptor at an address, from a single read. -/
def read (arch : Architecture) (typeAddress : Nat) : Inquiry TypeLayout := do
  let offset := arch.headerSize + slotsIndex * arch.wordSize
  let address ← Architecture.offsetAddress typeAddress offset (2 * arch.wordSize)
  match ← arch.readWords address 2 with
  | slots :: bytes :: _ =>
      return ⟨PartSize.ofWord arch.width slots, PartSize.ofWord arch.width bytes⟩
  | _ => Inquiry.defect .indexOutOfBounds

end TypeLayout

namespace Decoder

def descriptorFieldNames : List String :=
  ["methods", "name_map", "statics", "slots_num", "bytes_len", "obj_size"]

/-- The words of a descriptor, each read on its own. The references come before the sizes. -/
def typeDescriptor : Decoder where
  value _ := return none
  fields object := return {
    count := descriptorFieldNames.length
    name := fun index => descriptorFieldNames.getD index ""
    value := fun index => do
      let word ← object.readWord (← object.bodyWordOffset index)
      if index < TypeLayout.slotsIndex then return .tagged (object.classify word)
      else return .int (object.arch.width.toSigned word) }

end Decoder

end HeapInspector
