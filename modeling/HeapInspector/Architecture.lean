/-!
The shape of the machine that is inspected: its word width and its byte order. Words and addresses
are natural numbers. What a word means at a width is its residue, so no operation here has to
assume that its argument fits.
-/

namespace HeapInspector

abbrev Bytes := List UInt8

/-- Every address, size and word is held in 64 bits, whatever the width of the target. -/
def machineBound : Nat := 1 <<< 64

/-- Signed numbers have as many bits, one of which is the sign. -/
def signedBound : Nat := 1 <<< 63

inductive Width where
  | w32
  | w64
  deriving DecidableEq, Repr

namespace Width

def ofBits? : Nat → Option Width
  | 32 => some w32
  | 64 => some w64
  | _ => none

def bits : Width → Nat
  | w32 => 32
  | w64 => 64

/-- The size of a word in bytes. -/
def bytes : Width → Nat
  | w32 => 4
  | w64 => 8

/-- Words that agree modulo this number are the same word. -/
def modulus (width : Width) : Nat := 1 <<< width.bits

/-- The word with every bit set. -/
def mask (width : Width) : Nat := width.modulus - 1

/-- The two's complement reading of a word, from `-2^(W-1)` up to `2^(W-1) - 1`. -/
def toSigned (width : Width) (word : Nat) : Int := Int.bmod word width.modulus

theorem bytes_pos (width : Width) : 0 < width.bytes := by
  cases width <;> decide

theorem modulus_pos (width : Width) : 0 < width.modulus := by
  cases width <;> decide

end Width

/-- The `size` low bytes of a number, the least significant one first. -/
def littleBytes : Nat → Nat → Bytes
  | 0, _ => []
  | size + 1, value => UInt8.ofNat value :: littleBytes size (value / 256)

/-- The number whose bytes, the least significant one first, are the given ones. -/
def littleValue : Bytes → Nat
  | [] => 0
  | byte :: rest => byte.toNat + 256 * littleValue rest

theorem littleBytes_length (size value : Nat) : (littleBytes size value).length = size := by
  induction size generalizing value with
  | zero => rfl
  | succ size ih => simp [littleBytes, ih]

inductive ByteOrder where
  | little
  | big
  deriving DecidableEq, Repr

namespace ByteOrder

/-- An unsigned integer as `size` bytes. Bits that do not fit are dropped. -/
def encode (order : ByteOrder) (size value : Nat) : Bytes :=
  match order with
  | little => littleBytes size value
  | big => (littleBytes size value).reverse

/-- The unsigned integer that the bytes hold. -/
def decode (order : ByteOrder) (bytes : Bytes) : Nat :=
  match order with
  | little => littleValue bytes
  | big => littleValue bytes.reverse

@[simp] theorem encode_length (order : ByteOrder) (size value : Nat) :
    (order.encode size value).length = size := by
  cases order <;> simp [encode, littleBytes_length]

end ByteOrder

/-- What has to be known of a target before any of its memory is read. -/
structure Architecture where
  width : Width
  order : ByteOrder
  deriving DecidableEq, Repr

namespace Architecture

def wordSize (arch : Architecture) : Nat := arch.width.bytes

/-- A word in memory. Bits above the width are dropped. -/
def encodeWord (arch : Architecture) (word : Nat) : Bytes :=
  arch.order.encode arch.wordSize word

end Architecture

end HeapInspector
