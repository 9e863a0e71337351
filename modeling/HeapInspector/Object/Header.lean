import HeapInspector.Architecture

/-!
The two words in front of every object. The first is the address of the object's type descriptor
with the state of the garbage collector in its two low bits, the second a pointer of the collector
with the mark in bit 0.
-/

namespace HeapInspector

/-- The generation of an object. -/
inductive GcState where
  | new
  | mid
  | old
  | big
  deriving DecidableEq, Repr

namespace GcState

/-- The state in the two low bits of a word. -/
def ofBits (word : Nat) : GcState :=
  match word % 4 with
  | 0 => new
  | 1 => mid
  | 2 => old
  | _ => big

def bits : GcState → Nat
  | new => 0
  | mid => 1
  | old => 2
  | big => 3

def name : GcState → String
  | new => "NEW"
  | mid => "MID"
  | old => "OLD"
  | big => "BIG"

@[simp] theorem ofBits_bits (state : GcState) : ofBits state.bits = state := by
  cases state <;> rfl

end GcState

structure ObjectHeader where
  typeAddress : Nat
  gcState : GcState
  marked : Bool
  gcPointer : Nat
  deriving DecidableEq, Repr

namespace ObjectHeader

/-- The header in two raw words. The low bits of the second word other than the mark are unused. -/
def ofWords (first second : Nat) : ObjectHeader where
  typeAddress := first / 4 * 4
  gcState := GcState.ofBits first
  marked := second % 2 = 1
  gcPointer := second / 4 * 4

/-- The two raw words. The low bits are added by bitwise disjunction, so an address that is not
aligned mixes with them. -/
def toWords (header : ObjectHeader) : Nat × Nat :=
  (header.typeAddress ||| header.gcState.bits, header.gcPointer ||| header.marked.toNat)

end ObjectHeader

end HeapInspector
