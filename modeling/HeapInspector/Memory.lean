import HeapInspector.Inquiry

/-!
Typed reads. Each asks the host at most once, for the whole range that it needs.
-/

namespace HeapInspector

/-- The consecutive pieces of `size` elements. What is left over at the end is dropped. -/
def pieces {α : Type} (size : Nat) (list : List α) : List (List α) :=
  go (list.length / size) list
where
  go : Nat → List α → List (List α)
    | 0, _ => []
    | count + 1, list => list.take size :: go count (list.drop size)

namespace Architecture

/-- The sum of an address and an offset. It is refused if the range of `size` bytes from there does
not end within the address space. -/
def offsetAddress (base offset size : Nat) : Inquiry Nat :=
  if base + offset + size < machineBound then .done (base + offset)
  else
    .error (.memoryAccess ⟨base, size,
      "offset " ++ Numeral.hex offset ++ " wraps around the address space"⟩)

/-- The unsigned integer in at most eight bytes. -/
def decodeUnsigned (arch : Architecture) (bytes : Bytes) : Inquiry Nat :=
  if bytes.length ≤ 8 then .done (arch.order.decode bytes) else .defect .integerTooWide

def readWord (arch : Architecture) (address : Nat) : Inquiry Nat := do
  let bytes ← Inquiry.bytes address arch.wordSize
  arch.decodeUnsigned bytes

/-- Consecutive words, from a single read. -/
def readWords (arch : Architecture) (address count : Nat) : Inquiry (List Nat) := do
  let size ← Inquiry.natural (arch.wordSize * count)
  let bytes ← Inquiry.bytes address size
  Inquiry.forEach arch.decodeUnsigned (pieces arch.wordSize bytes)

/-- The bits of a floating-point number of eight bytes. -/
def readFloatBits (arch : Architecture) (address : Nat) : Inquiry UInt64 := do
  let bytes ← Inquiry.bytes address 8
  if bytes.length = 8 then return UInt64.ofNat (arch.order.decode bytes)
  else Inquiry.defect .indexOutOfBounds

end Architecture

end HeapInspector
