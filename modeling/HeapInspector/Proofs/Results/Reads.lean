import HeapInspector.Decoder.Extent
import HeapInspector.Proofs.Results.Inquiry
import HeapInspector.Proofs.Tagged
import HeapInspector.Proofs.Words

/-! What typed reads come to where the bytes that they ask for lie. A row of bytes is served in any
part, so that the parts of an object are found from the object as a whole. -/
namespace HeapInspector

open Inquiry

variable {host : Host} {arch : Architecture} {address size : Nat} {data first second : Bytes}

/-- The bytes lie at the address, and each range of them is answered, however small. -/
structure Host.Serves (host : Host) (address : Nat) (data : Bytes) : Prop where
  reachable : address + data.length < machineBound
  response : ∀ past offset size, offset + size ≤ data.length →
    host past ⟨address + offset, size⟩ = .ok ((data.drop offset).take size)

namespace Host.Serves

theorem left (h : host.Serves address (first ++ second)) : host.Serves address first := by
  constructor
  · have hReach := h.reachable
    rw [List.length_append] at hReach
    omega
  · intro past offset size hRange
    have hWhole : offset + size ≤ (first ++ second).length := by
      rw [List.length_append]
      omega
    rw [h.response past offset size hWhole, List.drop_append_of_le_length (by omega),
      List.take_append_of_le_length (by rw [List.length_drop]; omega)]

theorem right (h : host.Serves address (first ++ second)) :
    host.Serves (address + first.length) second := by
  constructor
  · have hReach := h.reachable
    rw [List.length_append] at hReach
    omega
  · intro past offset size hRange
    have hWhole : first.length + offset + size ≤ (first ++ second).length := by
      rw [List.length_append]
      omega
    have hResponse := h.response past (first.length + offset) size hWhole
    rw [← Nat.add_assoc] at hResponse
    rw [hResponse, List.drop_length_add_append]

theorem bytes (h : host.Serves address data) (hSize : data.length = size) :
    (Inquiry.bytes address size).Yields host data := by
  subst hSize
  have hWhole := fun past => h.response past 0 data.length (by omega)
  simp only [Nat.add_zero, List.drop_zero, List.take_length] at hWhole
  intro past
  rw [Inquiry.bytes, if_pos h.reachable]
  simp [run, hWhole]

/-- A word of a row of words. -/
theorem word {words : List Nat} (h : host.Serves address (words.flatMap arch.encodeWord))
    (index : Nat) (hIndex : index < words.length) :
    host.Serves (address + index * arch.wordSize) (arch.encodeWord words[index]) := by
  induction words generalizing address index with
  | nil => exact absurd hIndex (Nat.not_lt_zero _)
  | cons word rest ih =>
      rw [List.flatMap_cons] at h
      cases index with
      | zero => simpa using h.left
      | succ index =>
          have hRest := ih h.right index (by simpa using hIndex)
          have hAddress : address + (arch.encodeWord word).length + index * arch.wordSize =
              address + (index + 1) * arch.wordSize := by
            rw [arch.encodeWord_length, Nat.succ_mul]
            omega
          rw [hAddress] at hRest
          exact hRest

end Host.Serves

namespace Architecture

theorem yields_offsetAddress {base offset : Nat} (h : base + offset + size < machineBound) :
    (offsetAddress base offset size).Yields host (base + offset) := by
  rw [offsetAddress, if_pos h]
  exact .pure _

theorem yields_decodeUnsigned {bytes : Bytes} (h : bytes.length ≤ 8) :
    (arch.decodeUnsigned bytes).Yields host (arch.order.decode bytes) := by
  rw [decodeUnsigned, if_pos h]
  exact .pure _

/-- A word that was written is read as what is left of it at the width. -/
theorem yields_decodeWord (word : Nat) :
    (arch.decodeUnsigned (arch.encodeWord word)).Yields host (word % arch.width.modulus) := by
  have h : (arch.decodeUnsigned (arch.encodeWord word)).Yields host _ :=
    yields_decodeUnsigned (by rw [encodeWord_length]; exact arch.wordSize_le)
  rwa [decode_encodeWord] at h

theorem yields_readWord {word : Nat} (h : host.Serves address (arch.encodeWord word)) :
    (arch.readWord address).Yields host (word % arch.width.modulus) :=
  (h.bytes (arch.encodeWord_length word)).bind (yields_decodeWord word)

theorem yields_readWords {words : List Nat} {count : Nat}
    (h : host.Serves address (words.flatMap arch.encodeWord)) (hCount : words.length = count) :
    (arch.readWords address count).Yields host (words.map (· % arch.width.modulus)) := by
  subst hCount
  have hLength : (words.flatMap arch.encodeWord).length = arch.wordSize * words.length := by
    rw [flatMap_encodeWord_length, Nat.mul_comm]
  have hReach := h.reachable
  rw [hLength] at hReach
  unfold readWords
  apply (yields_natural (by omega)).bind
  apply (h.bytes hLength).bind
  rw [pieces_flatMap arch.wordSize_pos arch.encodeWord_length]
  apply yields_forEach
  rw [List.forall₂_map_left_iff, List.forall₂_map_right_iff, List.forall₂_same]
  intro word _
  exact yields_decodeWord word

theorem yields_readHeader {firstWord secondWord : Nat}
    (h : host.Serves address (arch.encodeWord firstWord ++ arch.encodeWord secondWord)) :
    (arch.readHeader address).Yields host
      (.ofWords (firstWord % arch.width.modulus) (secondWord % arch.width.modulus)) := by
  have hWords : host.Serves address ([firstWord, secondWord].flatMap arch.encodeWord) := by
    simpa using h
  exact (yields_readWords hWords rfl).bind (.pure _)

end Architecture

namespace ObjectRef

variable {object : ObjectRef} {offset : Nat}

/-- The bytes lie at the offset into the object. -/
def Serves (host : Host) (object : ObjectRef) (offset : Nat) (data : Bytes) : Prop :=
  host.Serves (object.address + offset) data

theorem Serves.left (h : object.Serves host offset (first ++ second)) :
    object.Serves host offset first := Host.Serves.left h

theorem Serves.right (h : object.Serves host offset (first ++ second)) :
    object.Serves host (offset + first.length) second := by
  unfold Serves
  rw [← Nat.add_assoc]
  exact Host.Serves.right h

theorem Serves.word {words : List Nat}
    (h : object.Serves host offset (words.flatMap object.arch.encodeWord)) (index : Nat)
    (hIndex : index < words.length) :
    object.Serves host (offset + index * object.wordSize) (object.arch.encodeWord words[index]) := by
  unfold Serves
  rw [← Nat.add_assoc]
  exact Host.Serves.word h index hIndex

theorem yields_bodyWordOffset {index : Nat}
    (h : object.bodyOffset + index * object.wordSize < machineBound) :
    (object.bodyWordOffset index).Yields host (object.bodyOffset + index * object.wordSize) :=
  yields_natural h

theorem yields_readWord {word : Nat} (h : object.Serves host offset (object.arch.encodeWord word)) :
    (object.readWord offset).Yields host (word % object.arch.width.modulus) := by
  have hReach := h.reachable
  rw [object.arch.encodeWord_length] at hReach
  exact (Architecture.yields_offsetAddress hReach).bind (Architecture.yields_readWord h)

/-- A word of the payload, as it is viewed. -/
theorem yields_bodyWord {words : List Nat} {index : Nat} {β : Type} (view : Nat → β)
    (h : object.Serves host object.bodyOffset (words.flatMap object.arch.encodeWord))
    (hIndex : index < words.length) :
    (do let word ← object.readWord (← object.bodyWordOffset index)
        return view word : Inquiry β).Yields host
      (view (words[index] % object.arch.width.modulus)) := by
  have hReach := h.reachable
  rw [object.arch.flatMap_encodeWord_length] at hReach
  have hOffset := Nat.mul_le_mul_right object.wordSize (Nat.le_of_lt hIndex)
  have hFits : object.bodyOffset + index * object.wordSize < machineBound := by
    unfold wordSize at *
    omega
  apply (yields_bodyWordOffset hFits).bind
  exact (yields_readWord (h.word index hIndex)).bind (.pure _)

theorem yields_readWords {words : List Nat} {count : Nat}
    (h : object.Serves host offset (words.flatMap object.arch.encodeWord))
    (hCount : words.length = count) :
    (object.readWords offset count).Yields host (words.map (· % object.arch.width.modulus)) := by
  have hReach := h.reachable
  rw [object.arch.flatMap_encodeWord_length, hCount] at hReach
  unfold readWords
  apply (yields_natural (by unfold wordSize; omega)).bind
  exact (Architecture.yields_offsetAddress hReach).bind (Architecture.yields_readWords h hCount)

theorem yields_readBytes (h : object.Serves host offset data) (hSize : data.length = size) :
    (object.readBytes offset size).Yields host data := by
  have hReach := h.reachable
  rw [hSize] at hReach
  exact (Architecture.yields_offsetAddress hReach).bind (Host.Serves.bytes h hSize)

theorem yields_checkPayloadSize (h : size ≤ maxPayloadSize) :
    (object.checkPayloadSize size).Yields host size := by
  rw [checkPayloadSize, if_neg (by omega)]
  exact .pure size

theorem yields_expectSmallInt {value : Int} {word : Nat}
    (h : encodeSmallInt? object.arch.width value = some word) :
    (object.expectSmallInt word).Yields host value := by
  obtain ⟨hValue, hOdd, hFits⟩ := decodeSmallInt_of_encode h
  unfold expectSmallInt
  rw [Tagged.classify_of_odd hOdd hFits]
  dsimp only
  rw [hValue]
  apply yields_integer
  rw [← hValue]
  exact decodeSmallInt_fits _ _

/-- The stored size of an object counts the fixed words and the data. -/
theorem yields_dataExtent {fixedWords : Nat} :
    (object.dataExtent (fixedWords * object.wordSize + size) fixedWords).Yields host size := by
  rw [dataExtent, if_neg (by omega), Nat.add_sub_cancel_left]
  exact .pure size

theorem yields_checkDataSize {fixedWords : Nat} (h : size ≤ maxPayloadSize) :
    (object.checkDataSize (fixedWords * object.wordSize + size) fixedWords size).Yields host size := by
  unfold checkDataSize
  apply yields_dataExtent.bind
  rw [checkFitsExtent, if_neg (by omega)]
  exact (Yields.pure ()).bind (yields_checkPayloadSize h)

end ObjectRef

end HeapInspector
