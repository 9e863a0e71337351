import HeapInspector.Memory
import Mathlib.Data.Nat.ModEq

/-! Numbers in bytes and words in a row. Writing keeps a number up to the bits that do not fit, in both
byte orders, and cutting a row of words gives the words back. -/
namespace HeapInspector

theorem littleValue_lt (bytes : Bytes) : littleValue bytes < 256 ^ bytes.length := by
  induction bytes with
  | nil => simp [littleValue]
  | cons byte rest ih =>
      have hByte := byte.toNat_lt
      simp only [littleValue, List.length_cons, Nat.pow_succ]
      omega

theorem littleValue_littleBytes (size value : Nat) :
    littleValue (littleBytes size value) = value % 256 ^ size := by
  induction size generalizing value with
  | zero => simp [littleBytes, littleValue, Nat.mod_one]
  | succ size ih =>
      have hByte : (UInt8.ofNat value).toNat = value % 256 := by simp
      rw [littleBytes, littleValue, ih, hByte, Nat.pow_succ', Nat.mod_mul]

/-- The bytes of a number are the only ones of their length that hold it. -/
theorem littleBytes_littleValue (bytes : Bytes) :
    littleBytes bytes.length (littleValue bytes) = bytes := by
  induction bytes with
  | nil => rfl
  | cons byte rest ih =>
      have hByte := byte.toNat_lt
      have hFirst : UInt8.ofNat (byte.toNat + 256 * littleValue rest) = byte := by
        apply UInt8.toNat_inj.mp
        rw [UInt8.toNat_ofNat', Nat.add_mul_mod_self_left, Nat.mod_eq_of_lt hByte]
      have hRest : (byte.toNat + 256 * littleValue rest) / 256 = littleValue rest := by omega
      rw [List.length_cons, littleValue, littleBytes, hFirst, hRest, ih]

namespace ByteOrder

theorem decode_lt (order : ByteOrder) (bytes : Bytes) :
    order.decode bytes < 256 ^ bytes.length := by
  cases order with
  | little => exact littleValue_lt bytes
  | big => simpa [decode] using littleValue_lt bytes.reverse

theorem decode_encode (order : ByteOrder) (size value : Nat) :
    order.decode (order.encode size value) = value % 256 ^ size := by
  cases order with
  | little => exact littleValue_littleBytes size value
  | big => simpa [decode, encode] using littleValue_littleBytes size value

theorem encode_decode (order : ByteOrder) (bytes : Bytes) :
    order.encode bytes.length (order.decode bytes) = bytes := by
  cases order with
  | little => exact littleBytes_littleValue bytes
  | big =>
      have hReverse := littleBytes_littleValue bytes.reverse
      rw [List.length_reverse] at hReverse
      rw [encode, decode, hReverse, List.reverse_reverse]

end ByteOrder

namespace Architecture

variable (arch : Architecture)

theorem wordSize_pos : 0 < arch.wordSize := arch.width.bytes_pos

theorem wordSize_le : arch.wordSize ≤ 8 := by
  unfold wordSize
  cases arch.width <;> decide

/-- A word size is a multiple of four, so that word aligned addresses have both low bits clear. -/
theorem four_dvd_wordSize : 4 ∣ arch.wordSize := by
  unfold wordSize
  cases arch.width <;> decide

theorem pow_wordSize : 256 ^ arch.wordSize = arch.width.modulus := by
  unfold wordSize
  cases arch.width <;> rfl

theorem modulus_le_machineBound : arch.width.modulus ≤ machineBound := by
  cases arch.width <;> decide

@[simp] theorem encodeWord_length (word : Nat) : (arch.encodeWord word).length = arch.wordSize :=
  arch.order.encode_length arch.wordSize word

@[simp] theorem decode_encodeWord (word : Nat) :
    arch.order.decode (arch.encodeWord word) = word % arch.width.modulus := by
  rw [encodeWord, ByteOrder.decode_encode, pow_wordSize]

theorem encodeWord_decode {bytes : Bytes} (h : bytes.length = arch.wordSize) :
    arch.encodeWord (arch.order.decode bytes) = bytes := by
  rw [encodeWord, ← h, ByteOrder.encode_decode]

theorem decode_lt_modulus {bytes : Bytes} (h : bytes.length = arch.wordSize) :
    arch.order.decode bytes < arch.width.modulus := by
  rw [← arch.pow_wordSize, ← h]
  exact arch.order.decode_lt bytes

/-- The words of a row take the place of their number times the word size. -/
@[simp] theorem flatMap_encodeWord_length (words : List Nat) :
    (words.flatMap arch.encodeWord).length = words.length * arch.wordSize := by
  induction words with
  | nil => simp
  | cons word rest ih => simp [ih, Nat.succ_mul, Nat.add_comm]

end Architecture

section Pieces

variable {α β : Type} {size : Nat}

theorem pieces_go_length (count : Nat) (list : List α) :
    (pieces.go size count list).length = count := by
  induction count generalizing list with
  | zero => rfl
  | succ count ih => simp [pieces.go, ih]

theorem pieces_length (list : List α) : (pieces size list).length = list.length / size :=
  pieces_go_length _ list

theorem length_of_mem_pieces_go {count : Nat} {list piece : List α}
    (hCount : count * size ≤ list.length) (hPiece : piece ∈ pieces.go size count list) :
    piece.length = size := by
  induction count generalizing list with
  | zero => simp [pieces.go] at hPiece
  | succ count ih =>
      rw [Nat.succ_mul] at hCount
      rcases List.mem_cons.mp hPiece with rfl | hRest
      · rw [List.length_take]
        omega
      · exact ih (by rw [List.length_drop]; omega) hRest

/-- What is left over is dropped, so every piece is whole. -/
theorem length_of_mem_pieces {list piece : List α} (hPiece : piece ∈ pieces size list) :
    piece.length = size :=
  length_of_mem_pieces_go (Nat.div_mul_le_self _ _) hPiece

theorem pieces_go_flatten_prefix (count : Nat) (list : List α) :
    (pieces.go size count list).flatten <+: list := by
  induction count generalizing list with
  | zero => exact List.nil_prefix
  | succ count ih =>
      obtain ⟨behind, hBehind⟩ := ih (list.drop size)
      refine ⟨behind, ?_⟩
      rw [pieces.go, List.flatten_cons, List.append_assoc, hBehind, List.take_append_drop]

/-- The pieces together are the row, as far as they reach. -/
theorem pieces_flatten_prefix (size : Nat) (list : List α) : (pieces size list).flatten <+: list :=
  pieces_go_flatten_prefix _ list

theorem pieces_append {first : List α} (rest : List α) (hFirst : first.length = size)
    (hSize : 0 < size) : pieces size (first ++ rest) = first :: pieces size rest := by
  have hCount : (first ++ rest).length / size = rest.length / size + 1 := by
    rw [List.length_append, hFirst, Nat.add_div_left _ hSize]
  rw [pieces, hCount, pieces.go, List.take_left' hFirst, List.drop_left' hFirst, pieces]

theorem pieces_flatMap {f : α → List β} (hSize : 0 < size) (hLength : ∀ a, (f a).length = size)
    (list : List α) : pieces size (list.flatMap f) = list.map f := by
  induction list with
  | nil => simp [pieces, pieces.go]
  | cons a rest ih => rw [List.flatMap_cons, pieces_append _ (hLength a) hSize, ih, List.map_cons]

end Pieces

end HeapInspector
