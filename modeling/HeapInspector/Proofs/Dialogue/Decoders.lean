import HeapInspector.Proofs.Conduct.Introspection
import HeapInspector.Proofs.Dialogue.Reads

/-! Where the decoders read. What an object declares of itself is known only through the words that are
read of it, and those are kept in the exchanges: each decoder is shown to stay with its later reads
within the range that its earlier ones have told. -/
namespace HeapInspector

open Inquiry

variable {agenda : List Exchange → Request → Prop} {heard : List Exchange} {object : ObjectRef}

/-- Every field only asks for what is allowed. -/
def Fields.AskOnly (fields : Fields) (allowed : Request → Prop) : Prop :=
  ∀ index < fields.count, (fields.value index).Follows (fun _ => allowed) (fun _ _ => True) []

namespace Fields

variable {first second : Fields} {allowed : Request → Prop}

theorem askOnly_none : none.AskOnly allowed := fun _ h => absurd h (Nat.not_lt_zero _)

theorem askOnly_one {name : String} {value : Inquiry FieldValue}
    (h : value.Follows (fun _ => allowed) (fun _ _ => True) []) : (one name value).AskOnly allowed :=
  fun _ _ => h

theorem askOnly_known {name : String} {value : FieldValue} : (known name value).AskOnly allowed :=
  askOnly_one (.done trivial)

theorem AskOnly.append (hFirst : first.AskOnly allowed) (hSecond : second.AskOnly allowed) :
    (first ++ second).AskOnly allowed := by
  intro index hIndex
  change index < first.count + second.count at hIndex
  change (if index < first.count then first.value index
    else second.value (index - first.count)).Follows _ _ _
  split
  · rename_i hBefore
    exact hFirst index hBefore
  · exact hSecond _ (by omega)

end Fields

namespace ObjectRef

theorem follows_inconsistent {α : Type} {post : List Exchange → α → Prop} {kind : Inconsistency} :
    (object.inconsistent kind).Follows agenda post heard := .fail

theorem follows_expectSmallInt {word : Nat} :
    (object.expectSmallInt word).Follows agenda
      (fun now value => now = heard ∧ object.classify word = .smallInt value) heard := by
  unfold expectSmallInt
  split
  · rename_i value hClass
    apply follows_integer.imp
    rintro now found ⟨rfl, rfl⟩
    exact ⟨rfl, by rw [classify, hClass, Tagged.eq_decodeSmallInt_of_classify hClass]⟩
  · exact follows_inconsistent

theorem follows_checkPayloadSize {size : Nat} :
    (object.checkPayloadSize size).Follows agenda (fun now found => now = heard ∧ found = size)
      heard :=
  (Follows.of_silent (meets_checkPayloadSize (Conduct.payloads_allows object).count)).imp
    fun _ _ h => ⟨h.1, h.2.1⟩

theorem follows_dataExtent {stored fixedWords : Nat} :
    (object.dataExtent stored fixedWords).Follows agenda
      (fun now extent => now = heard ∧ extent + fixedWords * object.wordSize = stored) heard :=
  .of_silent (meets_dataExtent (Conduct.payloads_allows object))

/-- Data whose size was checked lie within the stored size, behind the fixed words. -/
theorem follows_checkDataSize {stored fixedWords dataSize : Nat} :
    (object.checkDataSize stored fixedWords dataSize).Follows agenda
      (fun now size => now = heard ∧ size = dataSize ∧
        dataSize + fixedWords * object.wordSize ≤ stored) heard :=
  (Follows.of_silent (meets_checkDataSize (Conduct.payloads_allows object))).imp
    fun _ _ h => ⟨h.1, h.2.1, h.2.2.2⟩

/-- What a decoder may ask for to give a value: first the fixed words of the payload, and then what
these words declare. -/
def valueAgenda (object : ObjectRef) (fixedWords : Nat) (declares : Readings → Request → Prop)
    (heard : List Exchange) (request : Request) : Prop :=
  heard = [] ∧ request.Within object.body (object.body + fixedWords * object.wordSize) ∨
    declares (object.arch.readings heard) request

end ObjectRef

/-- For its value the decoder keeps to the agenda of the object, and the fields that it locates only
ask for what was declared when they were located. -/
structure Decoder.KeepsTo (decoder : Decoder) (object : ObjectRef) (fixedWords : Nat)
    (declares : Readings → Request → Prop) : Prop where
  value : (decoder.value object).Follows (object.valueAgenda fixedWords declares) (fun _ _ => True) []
  fields : (decoder.fields object).Follows (fun _ _ => True)
    (fun heard fields => fields.AskOnly (declares (object.arch.readings heard))) []

namespace Decoder

theorem follows_readBool (hAsk : agenda heard ⟨object.body, 1⟩) :
    (readBool object).Follows agenda (fun _ _ => True) heard := by
  unfold readBool
  apply (ObjectRef.follows_readBytes hAsk).bind
  intro now data hLength
  match data, hLength with
  | [byte], _ => exact .pure trivial

theorem follows_readFloat (hAsk : agenda heard ⟨object.body, 8⟩) :
    (readFloat object).Follows agenda (fun _ _ => True) heard := by
  unfold readFloat ObjectRef.addressAt
  apply Architecture.follows_offsetAddress.bind
  rintro heard address ⟨rfl, rfl⟩
  apply (Architecture.follows_readFloatBits hAsk).bind
  intro _ _ _
  exact .pure trivial

theorem bool_keepsTo : bool.KeepsTo object 0 fun _ => (·.Spans object.body (object.body + 1)) where
  value := (follows_readBool (.inr ⟨rfl, rfl⟩)).bind fun _ _ _ => .pure trivial
  fields := .pure (Fields.askOnly_one
    ((follows_readBool ⟨rfl, rfl⟩).bind fun _ _ _ => .pure trivial))

theorem float_keepsTo : float.KeepsTo object 0 fun _ => (·.Spans object.body (object.body + 8)) where
  value := (follows_readFloat (.inr ⟨rfl, rfl⟩)).bind fun _ _ _ => .pure trivial
  fields := .pure (Fields.askOnly_one
    ((follows_readFloat ⟨rfl, rfl⟩).bind fun _ _ _ => .pure trivial))

theorem nil_keepsTo : nil.KeepsTo object 0 fun _ _ => False where
  value := .pure trivial
  fields := .pure Fields.askOnly_none

/-- The elements are one fewer than the small integer that is stored. -/
theorem follows_elementCount {stored : Nat} :
    (elementCount object stored).Follows agenda
      (fun now length => now = heard ∧ object.classify stored = .smallInt (length + 1 : Nat))
      heard := by
  unfold elementCount
  apply ObjectRef.follows_expectSmallInt.bind
  rintro heard count ⟨rfl, hCount⟩
  split
  · exact ObjectRef.follows_inconsistent
  · apply follows_integer.bind
    rintro heard less ⟨rfl, rfl⟩
    have hSucc : (((count - 1).toNat + 1 : Nat) : Int) = count := by omega
    dsimp only
    split
    · apply ObjectRef.follows_checkPayloadSize.bind
      rintro heard _ ⟨rfl, -⟩
      exact .pure ⟨rfl, by rw [hSucc, hCount]⟩
    · exact ObjectRef.follows_inconsistent

theorem follows_readElementCount (hAsk : agenda heard ⟨object.body, object.wordSize⟩) :
    (readElementCount object).Follows agenda
      (fun now length => ∃ stored,
        object.arch.readings now =
          object.arch.readings heard ++ [(⟨object.body, object.wordSize⟩, [stored])] ∧
        object.classify stored = .smallInt (length + 1 : Nat)) heard := by
  unfold readElementCount
  apply (ObjectRef.follows_readWord hAsk).bind
  intro now stored hRead
  apply follows_elementCount.imp
  rintro now length ⟨rfl, hCount⟩
  exact ⟨stored, hRead, hCount⟩

theorem elements_askOnly {length : Nat} {allowed : Request → Prop}
    (h : ∀ index < length,
      allowed ⟨object.body + (index + 1) * object.wordSize, object.wordSize⟩) :
    (elements object length).AskOnly allowed :=
  fun index hIndex => ObjectRef.follows_bodyWord _ (h index hIndex)

/-- A row of slots declares the words behind the count, up to as many as the count says. -/
def slotsDeclare (object : ObjectRef) (readings : Readings) (request : Request) : Prop :=
  ∃ stored count : Nat,
    readings = [(⟨object.body, object.wordSize⟩, [stored])] ∧
    object.classify stored = .smallInt count ∧
    request.Within (object.body + object.wordSize) (object.body + count * object.wordSize)

/-- The slot behind a number of slots lies within any larger number of them. -/
theorem slot_within {index count : Nat} (h : index + 1 < count) :
    Request.Within ⟨object.body + (index + 1) * object.wordSize, object.wordSize⟩
      (object.body + object.wordSize) (object.body + count * object.wordSize) := by
  have hStart : object.wordSize ≤ (index + 1) * object.wordSize := Nat.le_mul_of_pos_left _ (by omega)
  have hEnd : (index + 2) * object.wordSize ≤ count * object.wordSize :=
    Nat.mul_le_mul_right _ (by omega)
  have hNext : (index + 2) * object.wordSize = (index + 1) * object.wordSize + object.wordSize :=
    Nat.succ_mul _ _
  simp only [Request.Within]
  omega

theorem slots_keepsTo : slots.KeepsTo object 1 (slotsDeclare object) where
  value := by
    have hCount : Request.Within ⟨object.body, object.wordSize⟩ object.body
        (object.body + 1 * object.wordSize) := ⟨Nat.le_refl _, by simp⟩
    exact (follows_readElementCount (.inl ⟨rfl, hCount⟩)).bind fun _ _ _ => .pure trivial
  fields := by
    apply (follows_readElementCount trivial).bind
    rintro now length ⟨stored, hRead, hCount⟩
    apply Follows.pure
    apply elements_askOnly
    intro index hIndex
    exact ⟨stored, length + 1, hRead, hCount, slot_within (by omega)⟩

theorem follows_readArrayLength
    (hAsk : agenda heard ⟨object.body + 1 * object.wordSize, object.wordSize⟩) :
    (readArrayLength object).Follows agenda (fun _ _ => True) heard := by
  rw [ObjectRef.body, Nat.add_assoc] at hAsk
  unfold readArrayLength
  apply ObjectRef.follows_bodyWordOffset.bind
  rintro heard offset ⟨rfl, rfl⟩
  exact (ObjectRef.follows_readWord hAsk).imp fun _ _ _ => trivial

/-- An array declares as many words of its storage, behind the count there, as its own length says.
The count of the storage has to leave as many. -/
def arrayDeclares (object : ObjectRef) (readings : Readings) (request : Request) : Prop :=
  ∃ data length storage first second stored count : Nat,
    readings = [(⟨object.body, 2 * object.wordSize⟩, [data, length]),
      (⟨storage, 3 * object.wordSize⟩, [first, second, stored])] ∧
    object.classify data = .reference storage ∧
    object.classify stored = .smallInt count ∧ length + 1 ≤ count ∧
    request.Within (storage + object.bodyOffset + object.wordSize)
      (storage + object.bodyOffset + (length + 1) * object.wordSize)

theorem follows_readArrayStorage (hAsk : ∀ heard request, agenda heard request) :
    (readArrayStorage object).Follows agenda
      (fun now (storage, length) => storage.arch = object.arch ∧
        ∃ data first second stored count : Nat,
          object.arch.readings now = object.arch.readings heard ++
            [(⟨object.body, 2 * object.wordSize⟩, [data, length]),
              (⟨storage.address, 3 * object.wordSize⟩, [first, second, stored])] ∧
          object.classify data = .reference storage.address ∧
          object.classify stored = .smallInt count ∧ length + 1 ≤ count) heard := by
  unfold readArrayStorage
  apply (ObjectRef.follows_readWords (hAsk _ _)).bind
  rintro now words ⟨hLength, hRead⟩
  match words, hLength with
  | [data, length], _ =>
    dsimp only
    split
    · rename_i address hData
      apply (Architecture.follows_readWords (hAsk _ _)).bind
      rintro later words ⟨hLength, hStorage⟩
      match words, hLength with
      | [first, second, stored], _ =>
        dsimp only
        apply follows_elementCount.bind
        rintro later capacity ⟨rfl, hCount⟩
        split
        · exact ObjectRef.follows_inconsistent
        · have hWhole : object.arch.readings later = object.arch.readings heard ++
              [(⟨object.body, 2 * object.wordSize⟩, [data, length]),
                (⟨address, 3 * object.wordSize⟩, [first, second, stored])] := by
            rw [hStorage, hRead, List.append_assoc]
            rfl
          exact .pure ⟨rfl, data, first, second, stored, capacity + 1, hWhole, hData, hCount, by omega⟩
    · exact ObjectRef.follows_inconsistent

theorem array_keepsTo : array.KeepsTo object 2 (arrayDeclares object) where
  value := by
    have hLength : Request.Within ⟨object.body + 1 * object.wordSize, object.wordSize⟩ object.body
        (object.body + 2 * object.wordSize) := ⟨by simp, by simp only; omega⟩
    exact (follows_readArrayLength (.inl ⟨rfl, hLength⟩)).bind fun _ _ _ => .pure trivial
  fields := by
    apply (follows_readArrayStorage fun _ _ => trivial).bind
    rintro now ⟨⟨arch, address, header⟩, length⟩ ⟨rfl, data, first, second, stored, count, hRead, hData,
      hCount, hLength⟩
    apply Follows.pure
    apply elements_askOnly
    intro index hIndex
    exact ⟨data, length, address, first, second, stored, count, hRead, hData, hCount, hLength,
      slot_within (by omega)⟩

/-- A symbol declares everything between its fixed words and the end of its stored size. -/
def symbolDeclares (object : ObjectRef) (readings : Readings) (request : Request) : Prop :=
  ∃ size stored rest,
    readings = [(⟨object.body, size⟩, stored :: rest)] ∧
    request.Spans (object.body + symbolFixedWords * object.wordSize) (object.body + stored)

theorem follows_decodeUtf8 {bytes : Bytes} :
    (decodeUtf8 object bytes).Follows agenda (fun _ _ => True) heard :=
  (Follows.of_silent (meets_decodeUtf8 (Conduct.payloads_allows object))).imp fun _ _ _ => trivial

theorem follows_readSymbolText {stored : Nat}
    (hAsk : ∀ extent, extent + symbolFixedWords * object.wordSize = stored →
      agenda heard ⟨object.body + symbolFixedWords * object.wordSize, extent⟩) :
    (readSymbolText object stored).Follows agenda (fun _ _ => True) heard := by
  unfold readSymbolText
  apply ObjectRef.follows_dataExtent.bind
  rintro heard extent ⟨rfl, hExtent⟩
  apply ObjectRef.follows_checkPayloadSize.bind
  rintro heard size ⟨rfl, rfl⟩
  apply ObjectRef.follows_bodyWordOffset.bind
  rintro heard offset ⟨rfl, rfl⟩
  have hData := hAsk size hExtent
  rw [ObjectRef.body, Nat.add_assoc] at hData
  apply (ObjectRef.follows_readBytes hData).bind
  intro _ _ _
  exact follows_decodeUtf8

theorem symbol_keepsTo : symbol.KeepsTo object 1 (symbolDeclares object) where
  value := by
    have hSize : Request.Within ⟨object.body, object.wordSize⟩ object.body
        (object.body + 1 * object.wordSize) := ⟨Nat.le_refl _, by simp⟩
    apply (ObjectRef.follows_readWord (.inl ⟨rfl, hSize⟩)).bind
    intro now stored hRead
    apply Follows.bind (follows_readSymbolText ?_) fun _ _ _ => .pure trivial
    intro extent hExtent
    exact .inr ⟨object.wordSize, stored, [], hRead, rfl, by simp only; omega⟩
  fields := by
    apply (ObjectRef.follows_readWords trivial).bind
    rintro now words ⟨hLength, hRead⟩
    match words, hLength with
    | [stored, next, hash], _ =>
      apply Follows.pure
      apply (Fields.askOnly_known.append Fields.askOnly_known).append
      apply Fields.askOnly_one
      apply Follows.bind (follows_readSymbolText ?_) fun _ _ _ => .pure trivial
      intro extent hExtent
      exact ⟨_, stored, [next, hash], hRead, rfl, by simp only; omega⟩

/-- A string declares exactly the elements that its packed length counts. Its stored size has to leave
room for them. -/
def stringDeclares (object : ObjectRef) (readings : Readings) (request : Request) : Prop :=
  ∃ stored packed,
    readings = [(⟨object.body, textFixedWords * object.wordSize⟩, [stored, packed])] ∧
    request.size = (PackedLength.unpack packed).count * (PackedLength.unpack packed).elementSize ∧
    request.Within (object.body + textFixedWords * object.wordSize) (object.body + stored)

/-- The layout that is found is the declared one. -/
theorem follows_readTextLayout (hAsk : agenda [] ⟨object.body, textFixedWords * object.wordSize⟩) :
    (readTextLayout object).Follows agenda
      (fun now (_, size) => stringDeclares object (object.arch.readings now)
        ⟨object.body + textFixedWords * object.wordSize, size⟩) [] := by
  unfold readTextLayout
  apply (ObjectRef.follows_readWords hAsk).bind
  rintro now words ⟨hLength, hRead⟩
  match words, hLength with
  | [stored, word], _ =>
    apply follows_natural.bind
    rintro now dataSize ⟨rfl, rfl⟩
    apply ObjectRef.follows_checkDataSize.bind
    rintro now size ⟨rfl, rfl, hFits⟩
    exact .pure ⟨stored, word, hRead, rfl, Nat.le_refl _, by simp only; omega⟩

theorem follows_readText {packed : PackedLength} {size : Nat}
    (hAsk : agenda heard ⟨object.body + textFixedWords * object.wordSize, size⟩) :
    (readText object packed size).Follows agenda (fun _ _ => True) heard := by
  rw [ObjectRef.body, Nat.add_assoc] at hAsk
  unfold readText
  apply ObjectRef.follows_bodyWordOffset.bind
  rintro heard offset ⟨rfl, rfl⟩
  apply (ObjectRef.follows_readBytes hAsk).bind
  intro now data _
  split
  · exact follows_decodeUtf8
  · have hElement : ∀ element, (do
        decodeCodePoint object (← object.arch.decodeUnsigned element) : Inquiry Char).Follows agenda
          (fun later c => later = now ∧ c = Char.ofNat (object.arch.order.decode element)) now := by
      intro element
      apply Architecture.follows_decodeUnsigned.bind
      rintro now code ⟨rfl, rfl⟩
      unfold decodeCodePoint
      split
      · exact .done ⟨rfl, rfl⟩
      · exact ObjectRef.follows_inconsistent
    exact (Follows.forEach_silent fun element _ => hElement element).bind fun _ _ _ => .pure trivial

theorem string_keepsTo : string.KeepsTo object 2 (stringDeclares object) where
  value := by
    apply (follows_readTextLayout (.inl ⟨rfl, Nat.le_refl _, Nat.le_refl _⟩)).bind
    intro now layout hDeclared
    exact (follows_readText (.inr hDeclared)).bind fun _ _ _ => .pure trivial
  fields := by
    apply (follows_readTextLayout trivial).bind
    intro now layout hDeclared
    apply Follows.pure
    apply (Fields.askOnly_known.append Fields.askOnly_known).append
    exact Fields.askOnly_one ((follows_readText hDeclared).bind fun _ _ _ => .pure trivial)

/-- A byte string declares exactly as many bytes as its stored length says. Its stored size has to
leave room for them. -/
def bytesDeclare (object : ObjectRef) (readings : Readings) (request : Request) : Prop :=
  ∃ stored size,
    readings = [(⟨object.body, bytesFixedWords * object.wordSize⟩, [stored, size])] ∧
    request.size = size ∧
    request.Within (object.body + bytesFixedWords * object.wordSize) (object.body + stored)

theorem follows_readBytesLayout (hAsk : agenda [] ⟨object.body, bytesFixedWords * object.wordSize⟩) :
    (readBytesLayout object).Follows agenda
      (fun now size => bytesDeclare object (object.arch.readings now)
        ⟨object.body + bytesFixedWords * object.wordSize, size⟩) [] := by
  unfold readBytesLayout
  apply (ObjectRef.follows_readWords hAsk).bind
  rintro now words ⟨hLength, hRead⟩
  match words, hLength with
  | [stored, size], _ =>
    apply ObjectRef.follows_checkDataSize.imp
    rintro now found ⟨rfl, rfl, hFits⟩
    exact ⟨stored, found, hRead, rfl, Nat.le_refl _, by simp only; omega⟩

theorem follows_readData {size : Nat}
    (hAsk : agenda heard ⟨object.body + bytesFixedWords * object.wordSize, size⟩) :
    (readData object size).Follows agenda (fun _ _ => True) heard := by
  rw [ObjectRef.body, Nat.add_assoc] at hAsk
  unfold readData
  apply ObjectRef.follows_bodyWordOffset.bind
  rintro heard offset ⟨rfl, rfl⟩
  exact (ObjectRef.follows_readBytes hAsk).imp fun _ _ _ => trivial

theorem bytes_keepsTo : bytes.KeepsTo object 2 (bytesDeclare object) where
  value := by
    apply (follows_readBytesLayout (.inl ⟨rfl, Nat.le_refl _, Nat.le_refl _⟩)).bind
    intro now size hDeclared
    exact (follows_readData (.inr hDeclared)).bind fun _ _ _ => .pure trivial
  fields := by
    apply (follows_readBytesLayout trivial).bind
    intro now size hDeclared
    apply Follows.pure
    apply Fields.askOnly_known.append
    exact Fields.askOnly_one ((follows_readData hDeclared).bind fun _ _ _ => .pure trivial)

theorem typeDescriptor_keepsTo : typeDescriptor.KeepsTo object 0 fun _ =>
    (·.Within object.body (object.body + descriptorFieldNames.length * object.wordSize)) where
  value := .pure trivial
  fields := by
    apply Follows.pure
    intro index hIndex
    have hEnd : (index + 1) * object.wordSize ≤ descriptorFieldNames.length * object.wordSize :=
      Nat.mul_le_mul_right _ hIndex
    rw [Nat.succ_mul] at hEnd
    have hWord : Request.Within ⟨object.body + index * object.wordSize, object.wordSize⟩ object.body
        (object.body + descriptorFieldNames.length * object.wordSize) :=
      ⟨Nat.le_add_right _ _, by simp only; omega⟩
    change (do let word ← object.readWord (← object.bodyWordOffset index)
               if index < TypeLayout.slotsIndex then return .tagged (object.classify word)
               else return .int (object.arch.width.toSigned word) : Inquiry FieldValue).Follows _ _ _
    split
    · exact ObjectRef.follows_bodyWord _ hWord
    · exact ObjectRef.follows_bodyWord _ hWord

/-- How the number of slots is known: from the type, or from what is read in front of the slots. -/
inductive CountsSlots (object : ObjectRef) : PartSize → Readings → Nat → Prop where
  | fixed {count : Nat} : CountsSlots object (.fixed count) [] count
  | extendable {stored count : Nat} (hCount : object.classify stored = .smallInt count) :
      CountsSlots object .extendable [(⟨object.body, object.wordSize⟩, [stored])] count

/-- Where the bytes are known to begin and to end, if the part begins at `start`: the type gives their
number, or what is read in front of them gives it, with itself counted. -/
inductive LocatesBytes (object : ObjectRef) (start : Nat) :
    PartSize → Readings → Nat → Nat → Prop where
  | fixed {size : Nat} : LocatesBytes object start (.fixed size) [] start (start + size)
  | extendable {total : Nat} :
      LocatesBytes object start .extendable [(⟨start, object.wordSize⟩, [total])]
        (start + object.wordSize) (start + total)

/-- Where the descriptor of the object's type says how many slots and how many bytes there are. -/
def layoutRange (object : ObjectRef) : Request :=
  ⟨object.header.typeAddress + (object.bodyOffset + TypeLayout.slotsIndex * object.wordSize),
    2 * object.wordSize⟩

/-- An object declares its slots and its bytes together with its type. -/
def layoutDeclares (object : ObjectRef) (readings : Readings) (request : Request) : Prop :=
  ∃ slotsWord bytesWord countRead sizeRead count start stop,
    readings = (layoutRange object, [slotsWord, bytesWord]) :: (countRead ++ sizeRead) ∧
    CountsSlots object (.ofWord object.arch.width slotsWord) countRead count ∧
    LocatesBytes object (object.body + count * object.wordSize)
      (.ofWord object.arch.width bytesWord) sizeRead start stop ∧
    (request.Within object.body (object.body + count * object.wordSize) ∨ request.Spans start stop)

theorem follows_readTypeLayout (hAsk : ∀ heard request, agenda heard request) :
    (TypeLayout.read object.arch object.header.typeAddress).Follows agenda
      (fun now layout => ∃ slotsWord bytesWord,
        object.arch.readings now = object.arch.readings heard ++
          [(layoutRange object, [slotsWord, bytesWord])] ∧
        layout = ⟨.ofWord object.arch.width slotsWord, .ofWord object.arch.width bytesWord⟩)
      heard := by
  unfold TypeLayout.read
  apply Architecture.follows_offsetAddress.bind
  rintro heard address ⟨rfl, rfl⟩
  apply (Architecture.follows_readWords (hAsk _ _)).bind
  rintro now words ⟨hLength, hRead⟩
  match words, hLength with
  | [slotsWord, bytesWord], _ => exact .pure ⟨slotsWord, bytesWord, hRead, rfl⟩

theorem follows_readSlotCount {slots : PartSize} (hAsk : ∀ heard request, agenda heard request) :
    (readSlotCount object slots).Follows agenda
      (fun now count => ∃ read, object.arch.readings now = object.arch.readings heard ++ read ∧
        CountsSlots object slots read count) heard := by
  have hCheck : ∀ now, ∀ count : Nat,
      (if count * object.wordSize < machineBound then do
          let _ ← object.checkPayloadSize (count * object.wordSize)
          return count
        else object.inconsistent (.implausibleSize count) : Inquiry Nat).Follows agenda
          (fun later found => later = now ∧ found = count) now := by
    intro now count
    split
    · apply ObjectRef.follows_checkPayloadSize.bind
      rintro now _ ⟨rfl, -⟩
      exact .pure ⟨rfl, rfl⟩
    · exact ObjectRef.follows_inconsistent
  unfold readSlotCount
  cases slots with
  | fixed count =>
      apply (hCheck heard count).imp
      rintro now found ⟨rfl, rfl⟩
      exact ⟨[], by simp, .fixed⟩
  | extendable =>
      apply (ObjectRef.follows_readWord (hAsk _ _)).bind
      intro now stored hRead
      apply ObjectRef.follows_expectSmallInt.bind
      rintro now count ⟨rfl, hCount⟩
      split
      · exact .fail
      · have hCast : ((count.toNat : Nat) : Int) = count := by omega
        apply (hCheck now count.toNat).imp
        rintro now found ⟨rfl, rfl⟩
        exact ⟨_, hRead, .extendable (by rw [hCast, hCount])⟩

theorem follows_locateBytes {bytes : PartSize} {slotCount : Nat}
    (hAsk : ∀ heard request, agenda heard request) :
    (locateBytes object bytes slotCount).Follows agenda
      (fun now part => ∃ read, object.arch.readings now = object.arch.readings heard ++ read ∧
        LocatesBytes object (object.body + slotCount * object.wordSize) bytes read
          (object.address + part.offset) (object.address + part.offset + part.size)) heard := by
  unfold locateBytes
  apply ObjectRef.follows_bodyWordOffset.bind
  rintro heard offset ⟨rfl, rfl⟩
  have hStart : object.address + (object.bodyOffset + slotCount * object.wordSize) =
      object.body + slotCount * object.wordSize := (Nat.add_assoc _ _ _).symm
  cases bytes with
  | fixed size =>
      apply ObjectRef.follows_checkPayloadSize.bind
      rintro now checked ⟨rfl, rfl⟩
      refine .pure ⟨[], by simp, ?_⟩
      rw [hStart]
      exact .fixed
  | extendable =>
      apply (ObjectRef.follows_readWord (hAsk _ _)).bind
      intro now total hRead
      split
      · exact ObjectRef.follows_inconsistent
      · apply follows_natural.bind
        rintro now start ⟨rfl, rfl⟩
        apply ObjectRef.follows_checkPayloadSize.bind
        rintro now checked ⟨rfl, rfl⟩
        refine .pure ⟨_, hRead, ?_⟩
        rw [hStart, ← Nat.add_assoc, hStart,
          show object.body + slotCount * object.wordSize + object.wordSize +
            (total - object.wordSize) = object.body + slotCount * object.wordSize + total by omega]
        exact .extendable

theorem rawBytes_askOnly {part : BytesPart} {allowed : Request → Prop}
    (h : allowed ⟨object.address + part.offset, part.size⟩) :
    (rawBytes object part).AskOnly allowed := by
  unfold rawBytes
  split
  · exact Fields.askOnly_none
  · exact Fields.askOnly_one ((ObjectRef.follows_readBytes h).bind fun _ _ _ => .pure trivial)

theorem byLayout_keepsTo : byLayout.KeepsTo object 0 (layoutDeclares object) where
  value := .pure trivial
  fields := by
    apply (follows_readTypeLayout fun _ _ => trivial).bind
    rintro now layout ⟨slotsWord, bytesWord, hLayout, rfl⟩
    apply (follows_readSlotCount fun _ _ => trivial).bind
    rintro now count ⟨countRead, hCountRead, hCount⟩
    apply (follows_locateBytes fun _ _ => trivial).bind
    rintro now part ⟨sizeRead, hSizeRead, hPart⟩
    have hRead : object.arch.readings now =
        (layoutRange object, [slotsWord, bytesWord]) :: (countRead ++ sizeRead) := by
      rw [hSizeRead, hCountRead, hLayout, List.append_assoc]
      rfl
    have hDeclared : ∀ request : Request,
        request.Within object.body (object.body + count * object.wordSize) ∨
          request.Spans (object.address + part.offset) (object.address + part.offset + part.size) →
        layoutDeclares object (object.arch.readings now) request := fun _ hRange =>
      ⟨slotsWord, bytesWord, countRead, sizeRead, count, _, _, hRead, hCount, hPart, hRange⟩
    apply Follows.pure
    apply Fields.AskOnly.append
    · intro index hIndex
      have hEnd : (index + 1) * object.wordSize ≤ count * object.wordSize :=
        Nat.mul_le_mul_right _ hIndex
      rw [Nat.succ_mul] at hEnd
      apply ObjectRef.follows_bodyWord
      exact hDeclared _ (.inl ⟨Nat.le_add_right _ _, by simp only; omega⟩)
    · exact rawBytes_askOnly (hDeclared _ (.inr ⟨rfl, rfl⟩))

end Decoder

end HeapInspector
