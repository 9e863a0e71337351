import HeapInspector.Architecture
import HeapInspector.Text.Numeral

/-!
Tagged values. If bit 0 of a word is set, the bits above it hold a small integer. Otherwise the word
is null or the address of an object on the heap.
-/

namespace HeapInspector

namespace Width

/-- The least small integer; one bit of a word is the tag and one is the sign. -/
def smallIntMin (width : Width) : Int := -(1 <<< (width.bits - 2) : Nat)

def smallIntMax (width : Width) : Int := (1 <<< (width.bits - 2) : Nat) - 1

end Width

/-- The small integer in the bits of a word above the tag. Of a word with the sign bit set, the
distance to the next power of two is halved, without the tag. -/
def decodeSmallInt (width : Width) (word : Nat) : Int :=
  let raw := word % width.modulus
  if width.modulus / 2 ≤ raw then -(((width.modulus - (raw - raw % 2)) / 2 : Nat) : Int)
  else (raw / 2 : Nat)

/-- The word that holds a small integer, if it fits. -/
def encodeSmallInt? (width : Width) (value : Int) : Option Nat :=
  if width.smallIntMin ≤ value ∧ value ≤ width.smallIntMax then
    some ((2 * value + 1) % width.modulus).toNat
  else none

inductive Tagged where
  | null
  | smallInt (value : Int)
  | reference (address : Nat)
  deriving DecidableEq, Repr

namespace Tagged

/-- The value that a word holds. Bits above the width do not count. -/
def classify (width : Width) (word : Nat) : Tagged :=
  let raw := word % width.modulus
  if raw = 0 then null
  else if raw % 2 = 1 then smallInt (decodeSmallInt width raw)
  else reference raw

def isReference : Tagged → Bool
  | reference _ => true
  | _ => false

def display : Tagged → String
  | null => "null"
  | smallInt value => "smallint\x7b" ++ Numeral.signedDecimal value ++ "\x7d"
  | reference address => Numeral.hex address

end Tagged

end HeapInspector
