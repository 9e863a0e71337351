import HeapInspector.Decoder.Extent
import HeapInspector.Proofs.Conduct.Inquiry
import HeapInspector.Proofs.Tagged
import HeapInspector.Proofs.Words

/-! The conduct of typed reads. Each asks for one range at most, and only if the range ends within the
address space. A response of another length is reported, so the bytes behind a read have the length
that was asked for, and nothing that is cut from them can be missing. -/
namespace HeapInspector

open Inquiry

variable {conduct : Conduct}

/-- The conduct passes the faults of the host on. -/
def Conduct.PassesFaults (conduct : Conduct) : Prop :=
  ∀ fault, conduct.reports (.memoryAccess fault)

/-- The conduct admits one read of the range, if the range ends within the address space. -/
def Conduct.Admits (conduct : Conduct) (address size : Nat) : Prop :=
  address + size < machineBound → conduct.asks ⟨address, size⟩

namespace Inquiry

theorem meets_natural {value : Nat} (h : value < machineBound) :
    (natural value).Meets conduct (· = value) 0 := by
  rw [natural, if_pos h]
  exact .done rfl

theorem meets_integer {value : Int} (h : -(signedBound : Int) ≤ value ∧ value < signedBound) :
    (integer value).Meets conduct (· = value) 0 := by
  rw [integer, if_pos h]
  exact .done rfl

theorem meets_bytes {address size : Nat} (hFaults : conduct.PassesFaults)
    (hAdmits : conduct.Admits address size) :
    (bytes address size).Meets conduct (·.length = size) 1 := by
  unfold bytes
  split
  · rename_i hEnd
    apply Meets.read (hAdmits hEnd)
    intro response
    cases response with
    | error fault => exact .error (hFaults fault)
    | ok bytes =>
        dsimp only
        split
        · rename_i hLength
          exact .done hLength
        · exact .error (hFaults _)
  · exact .error (hFaults _)

end Inquiry

namespace Architecture

variable {arch : Architecture}

theorem meets_offsetAddress {base offset size : Nat} (hFaults : conduct.PassesFaults) :
    (offsetAddress base offset size).Meets conduct (· = base + offset) 0 := by
  unfold offsetAddress
  split
  · exact .done rfl
  · exact .error (hFaults _)

theorem meets_decodeUnsigned {bytes : Bytes} (h : bytes.length ≤ 8) :
    (arch.decodeUnsigned bytes).Meets conduct (· < 256 ^ bytes.length) 0 := by
  rw [decodeUnsigned, if_pos h]
  exact .done (arch.order.decode_lt bytes)

theorem meets_readWord {address : Nat} (hFaults : conduct.PassesFaults)
    (hAdmits : conduct.Admits address arch.wordSize) :
    (arch.readWord address).Meets conduct (· < arch.width.modulus) 1 := by
  unfold readWord
  apply (meets_bytes hFaults hAdmits).bind
  intro bytes hLength
  rw [← arch.pow_wordSize, ← hLength]
  exact meets_decodeUnsigned (hLength ▸ arch.wordSize_le)

/-- As many words as were asked for, each within the width. -/
theorem meets_readWords {address count : Nat} (hFaults : conduct.PassesFaults)
    (hSize : arch.wordSize * count < machineBound)
    (hAdmits : conduct.Admits address (arch.wordSize * count)) :
    (arch.readWords address count).Meets conduct
      (fun words => words.length = count ∧ ∀ word ∈ words, word < arch.width.modulus) 1 := by
  unfold readWords
  apply (meets_natural hSize).bind
  intro size hEq
  subst hEq
  apply (meets_bytes hFaults hAdmits).bind
  intro bytes hBytes
  have hWords : (forEach arch.decodeUnsigned (pieces arch.wordSize bytes)).Meets conduct
      (fun words => words.length = (pieces arch.wordSize bytes).length ∧
        ∀ word ∈ words, word < arch.width.modulus) 0 := by
    apply Meets.forEach_silent
    intro piece hPiece
    have hLength := length_of_mem_pieces hPiece
    rw [← arch.pow_wordSize, ← hLength]
    exact meets_decodeUnsigned (hLength ▸ arch.wordSize_le)
  apply hWords.imp
  intro words hFound
  have hLength : words.length = count := by
    rw [hFound.1, pieces_length, hBytes, Nat.mul_div_cancel_left _ arch.wordSize_pos]
  exact ⟨hLength, hFound.2⟩

theorem meets_readFloatBits {address : Nat} (hFaults : conduct.PassesFaults)
    (hAdmits : conduct.Admits address 8) :
    (arch.readFloatBits address).Meets conduct (fun _ => True) 1 := by
  unfold readFloatBits
  apply (meets_bytes hFaults hAdmits).bind
  intro bytes hLength
  rw [if_pos hLength]
  exact .pure trivial

theorem meets_readHeader {address : Nat} (hFaults : conduct.PassesFaults)
    (hAdmits : conduct.Admits address arch.headerSize) :
    (arch.readHeader address).Meets conduct (fun _ => True) 1 := by
  have hSize : arch.wordSize * 2 < machineBound := by
    have hWord := arch.wordSize_le
    unfold machineBound
    omega
  rw [headerSize, Nat.mul_comm] at hAdmits
  unfold readHeader
  apply (meets_readWords hFaults hSize hAdmits).bind
  intro words hWords
  match words, hWords.1 with
  | [first, second], _ => exact .pure trivial

end Architecture

/-- The conduct admits every read of a payload, and every error that the object can give rise to. -/
structure Conduct.Allows (conduct : Conduct) (object : ObjectRef) : Prop where
  faults : conduct.PassesFaults
  payloads : ∀ address size, size ≤ maxPayloadSize → conduct.Admits address size
  blames : ∀ kind, conduct.reports (.decode object.address kind)

/-- The conduct admits every read of a payload, and no error but the faults of the host. -/
structure Conduct.AllowsReads (conduct : Conduct) : Prop where
  faults : conduct.PassesFaults
  payloads : ∀ address size, size ≤ maxPayloadSize → conduct.Admits address size

/-- The conduct admits what can be wrong with a count that the object stores. -/
structure Conduct.AllowsCount (conduct : Conduct) (object : ObjectRef) : Prop where
  notSmallInt : ∀ word, conduct.reports (.decode object.address (.notSmallInt word))
  slotCount : ∀ count, conduct.reports (.decode object.address (.invalidSlotCount count))
  size : ∀ size, conduct.reports (.decode object.address (.implausibleSize size))

theorem Conduct.Allows.reads {object : ObjectRef} (h : conduct.Allows object) : conduct.AllowsReads :=
  ⟨h.faults, h.payloads⟩

theorem Conduct.Allows.count {object : ObjectRef} (h : conduct.Allows object) :
    conduct.AllowsCount object :=
  ⟨fun _ => h.blames _, fun _ => h.blames _, fun _ => h.blames _⟩

/-- A few words take up far less than a payload, wherever they are. -/
theorem Architecture.meets_fewWords {arch : Architecture} {address count : Nat}
    (hReads : conduct.AllowsReads) (hCount : count ≤ 3) :
    (arch.readWords address count).Meets conduct
      (fun words => words.length = count ∧ ∀ word ∈ words, word < arch.width.modulus) 1 := by
  have hSize : arch.wordSize * count ≤ 8 * 3 := Nat.mul_le_mul arch.wordSize_le hCount
  apply meets_readWords hReads.faults (hSize.trans_lt (by decide))
  exact hReads.payloads _ _ (hSize.trans (by decide))

namespace ObjectRef

variable {object : ObjectRef}

theorem wordSize_pos (object : ObjectRef) : 0 < object.wordSize := object.arch.wordSize_pos

theorem wordSize_le (object : ObjectRef) : object.wordSize ≤ 8 := object.arch.wordSize_le

theorem four_le_wordSize (object : ObjectRef) : 4 ≤ object.wordSize :=
  Nat.le_of_dvd object.wordSize_pos object.arch.four_dvd_wordSize

/-- Offsets into a payload that can be read at once do not overflow. -/
theorem meets_bodyWordOffset {index : Nat} (h : index * object.wordSize ≤ maxPayloadSize) :
    (object.bodyWordOffset index).Meets conduct
      (· = object.bodyOffset + index * object.wordSize) 0 := by
  have hWord := object.wordSize_le
  apply meets_natural
  unfold bodyOffset Architecture.headerSize
  unfold wordSize maxPayloadSize machineBound at *
  omega

/-- The words in front of a payload are few. -/
theorem meets_fixedWordOffset {index : Nat} (h : index ≤ 6) :
    (object.bodyWordOffset index).Meets conduct
      (· = object.bodyOffset + index * object.wordSize) 0 :=
  meets_bodyWordOffset ((Nat.mul_le_mul h object.wordSize_le).trans (by decide))

theorem meets_readWord {offset : Nat} (hFaults : conduct.PassesFaults)
    (hAdmits : conduct.Admits (object.address + offset) object.wordSize) :
    (object.readWord offset).Meets conduct (· < object.arch.width.modulus) 1 := by
  unfold readWord addressAt
  apply (Architecture.meets_offsetAddress hFaults).bind
  intro address hAddress
  subst hAddress
  exact Architecture.meets_readWord hFaults hAdmits

theorem meets_readWords {offset count : Nat} (hFaults : conduct.PassesFaults)
    (hSize : count * object.wordSize < machineBound)
    (hAdmits : conduct.Admits (object.address + offset) (count * object.wordSize)) :
    (object.readWords offset count).Meets conduct
      (fun words => words.length = count ∧ ∀ word ∈ words, word < object.arch.width.modulus) 1 := by
  unfold readWords addressAt
  apply (meets_natural hSize).bind
  intro size hEq
  subst hEq
  apply (Architecture.meets_offsetAddress hFaults).bind
  intro address hAddress
  subst hAddress
  unfold wordSize at hSize hAdmits
  rw [Nat.mul_comm] at hSize hAdmits
  exact Architecture.meets_readWords hFaults hSize hAdmits

theorem meets_readBytes {offset size : Nat} (hFaults : conduct.PassesFaults)
    (hAdmits : conduct.Admits (object.address + offset) size) :
    (object.readBytes offset size).Meets conduct (·.length = size) 1 := by
  unfold readBytes addressAt
  apply (Architecture.meets_offsetAddress hFaults).bind
  intro address hAddress
  subst hAddress
  exact meets_bytes hFaults hAdmits

theorem meets_expectSmallInt (hCount : conduct.AllowsCount object) {word : Nat} :
    (object.expectSmallInt word).Meets conduct (· = decodeSmallInt object.arch.width word) 0 := by
  unfold expectSmallInt
  split
  · exact meets_integer (decodeSmallInt_fits _ _)
  · exact .error (hCount.notSmallInt word)

theorem meets_checkPayloadSize (hCount : conduct.AllowsCount object) {size : Nat} :
    (object.checkPayloadSize size).Meets conduct (fun s => s = size ∧ size ≤ maxPayloadSize) 0 := by
  unfold checkPayloadSize
  split
  · exact .error (hCount.size size)
  · rename_i hSize
    exact .done ⟨rfl, Nat.le_of_not_lt hSize⟩

section Checks

variable (hAllows : conduct.Allows object)

include hAllows

theorem admits_word (address : Nat) : conduct.Admits address object.wordSize :=
  hAllows.payloads _ _ (object.wordSize_le.trans (by decide))

theorem meets_payloadWord {offset : Nat} :
    (object.readWord offset).Meets conduct (· < object.arch.width.modulus) 1 :=
  meets_readWord hAllows.faults (admits_word hAllows _)

theorem meets_payloadWords {offset count : Nat} (hSize : count * object.wordSize ≤ maxPayloadSize) :
    (object.readWords offset count).Meets conduct
      (fun words => words.length = count ∧ ∀ word ∈ words, word < object.arch.width.modulus) 1 :=
  meets_readWords hAllows.faults (hSize.trans_lt (by decide)) (hAllows.payloads _ _ hSize)

/-- The words in front of a payload. -/
theorem meets_fixedWords {offset count : Nat} (hCount : count ≤ 3) :
    (object.readWords offset count).Meets conduct
      (fun words => words.length = count ∧ ∀ word ∈ words, word < object.arch.width.modulus) 1 :=
  meets_payloadWords hAllows ((Nat.mul_le_mul hCount object.wordSize_le).trans (by decide))

theorem meets_payloadBytes {offset size : Nat} (hSize : size ≤ maxPayloadSize) :
    (object.readBytes offset size).Meets conduct (·.length = size) 1 :=
  meets_readBytes hAllows.faults (hAllows.payloads _ _ hSize)

theorem meets_inconsistent {α : Type} {post : α → Prop} {reads : Nat} {kind : Inconsistency} :
    (object.inconsistent kind).Meets conduct post reads :=
  .error (hAllows.blames kind)

theorem meets_dataExtent {stored fixedWords : Nat} :
    (object.dataExtent stored fixedWords).Meets conduct
      (· + fixedWords * object.wordSize = stored) 0 := by
  unfold dataExtent
  split
  · exact meets_inconsistent hAllows
  · exact .done (by omega)

theorem meets_checkFitsExtent {dataSize extent : Nat} :
    (object.checkFitsExtent dataSize extent).Meets conduct (fun _ => dataSize ≤ extent) 0 := by
  unfold checkFitsExtent
  split
  · exact meets_inconsistent hAllows
  · exact .done (by omega)

/-- The size that comes out of the checks is the one that went in. It is that of a payload, and the
data lie within the stored size. -/
theorem meets_checkDataSize {stored fixedWords dataSize : Nat} :
    (object.checkDataSize stored fixedWords dataSize).Meets conduct
      (fun size => size = dataSize ∧ dataSize ≤ maxPayloadSize ∧
        dataSize + fixedWords * object.wordSize ≤ stored) 0 := by
  unfold checkDataSize
  apply (meets_dataExtent hAllows).bind
  intro extent hExtent
  apply (meets_checkFitsExtent hAllows).bind
  intro _ hFits
  exact (meets_checkPayloadSize hAllows.count).imp fun size hSize => ⟨hSize.1, hSize.2, by omega⟩

end Checks

end ObjectRef

end HeapInspector
