import HeapInspector.Proofs.Conduct.Reads
import HeapInspector.Registry

/-! The conduct of the decoders. Sizes and counts come from the target and can be anything; each is
checked before a range is formed from it. A value takes two reads at most and locating the fields
takes three. What is read there is kept, so a field takes one read when its turn comes. -/
namespace HeapInspector

open Inquiry

variable {conduct : Conduct} {object : ObjectRef}

/-- Each field takes one read at most, and it is unavailable only if an error becomes of it. There are no
more fields than a payload has bytes. -/
structure Fields.Orderly (conduct : Conduct) (fields : Fields) : Prop where
  value : ∀ index < fields.count,
    (fields.value index).Meets conduct (fun value => value.isUnavailable = false) 1
  count_le : fields.count ≤ maxPayloadSize

structure Decoder.Orderly (conduct : Conduct) (object : ObjectRef) (decoder : Decoder) : Prop where
  value : (decoder.value object).Meets conduct (fun _ => True) 2
  fields : (decoder.fields object).Meets conduct (Fields.Orderly conduct) 3

namespace Fields

theorem orderly_none : none.Orderly conduct := ⟨fun _ h => absurd h (Nat.not_lt_zero _), by decide⟩

theorem orderly_one {name : String} {value : Inquiry FieldValue}
    (h : value.Meets conduct (fun value => value.isUnavailable = false) 1) :
    (one name value).Orderly conduct :=
  ⟨fun _ _ => h, by show 1 ≤ maxPayloadSize; decide⟩

theorem orderly_known {name : String} {value : FieldValue} (h : value.isUnavailable = false) :
    (known name value).Orderly conduct :=
  orderly_one (.done h)

theorem Orderly.append {first second : Fields} (hFirst : first.Orderly conduct)
    (hSecond : second.Orderly conduct) (hCount : first.count + second.count ≤ maxPayloadSize) :
    (first ++ second).Orderly conduct := by
  constructor
  · intro index hIndex
    change index < first.count + second.count at hIndex
    change (if index < first.count then first.value index
      else second.value (index - first.count)).Meets conduct _ 1
    split
    · rename_i hBefore
      exact hFirst.value index hBefore
    · exact hSecond.value _ (by omega)
  · exact hCount

/-- A field behind two whose values are known already. -/
theorem orderly_behind_known {first second name : String} {firstValue secondValue : FieldValue}
    {value : Inquiry FieldValue} (hFirst : firstValue.isUnavailable = false)
    (hSecond : secondValue.isUnavailable = false)
    (h : value.Meets conduct (fun value => value.isUnavailable = false) 1) :
    (known first firstValue ++ known second secondValue ++ one name value).Orderly conduct := by
  apply ((orderly_known hFirst).append (orderly_known hSecond) _).append (orderly_one h)
  · show 3 ≤ maxPayloadSize
    decide
  · show 2 ≤ maxPayloadSize
    decide

end Fields

/-- The conduct admits what can go wrong once the size of a text is checked: reads of a payload, and errors
about the characters. -/
structure Conduct.AllowsText (conduct : Conduct) (object : ObjectRef) : Prop where
  faults : conduct.PassesFaults
  payloads : ∀ address size, size ≤ maxPayloadSize → conduct.Admits address size
  utf8 : conduct.reports (.decode object.address .invalidUtf8)
  codePoints : ∀ code, conduct.reports (.decode object.address (.invalidCodePoint code))

theorem Conduct.Allows.text (h : conduct.Allows object) : conduct.AllowsText object :=
  ⟨h.faults, h.payloads, h.blames _, fun _ => h.blames _⟩

namespace Conduct.AllowsText

open Decoder

variable (hAllows : conduct.AllowsText object)

include hAllows

theorem meets_decodeUtf8 {bytes : Bytes} :
    (decodeUtf8 object bytes).Meets conduct (fun _ => True) 0 := by
  unfold decodeUtf8
  split
  · exact .done trivial
  · exact .error hAllows.utf8

theorem meets_payload {offset size : Nat} (hSize : size ≤ maxPayloadSize) :
    (object.readBytes offset size).Meets conduct (·.length = size) 1 :=
  ObjectRef.meets_readBytes hAllows.faults (hAllows.payloads _ _ hSize)

theorem meets_readText {packed : PackedLength} {size : Nat} (hElement : packed.elementSize ≤ 4)
    (hSize : size ≤ maxPayloadSize) :
    (readText object packed size).Meets conduct (fun _ => True) 1 := by
  unfold readText
  apply (ObjectRef.meets_fixedWordOffset (by decide)).bind
  intro offset _
  apply (hAllows.meets_payload hSize).bind
  intro data _
  split
  · exact hAllows.meets_decodeUtf8
  · have hElements : (forEach
        (fun element => do decodeCodePoint object (← object.arch.decodeUnsigned element))
        (pieces packed.elementSize data)).Meets conduct
          (fun characters => characters.length = (pieces packed.elementSize data).length ∧
            ∀ c ∈ characters, True) 0 := by
      apply Meets.forEach_silent
      intro element hMem
      have hLength := length_of_mem_pieces hMem
      apply (Architecture.meets_decodeUnsigned (by omega)).bind
      intro code _
      unfold decodeCodePoint
      split
      · exact .done trivial
      · exact .error (hAllows.codePoints code)
    exact hElements.bind fun _ _ => .pure trivial

theorem meets_readData {size : Nat} (hSize : size ≤ maxPayloadSize) :
    (readData object size).Meets conduct (·.length = size) 1 := by
  unfold readData
  apply (ObjectRef.meets_fixedWordOffset (by decide)).bind
  intro offset _
  exact hAllows.meets_payload hSize

end Conduct.AllowsText

namespace Decoder

variable (hAllows : conduct.Allows object)

include hAllows

theorem meets_readBool : (readBool object).Meets conduct (fun _ => True) 1 := by
  unfold readBool
  apply (ObjectRef.meets_payloadBytes hAllows (by decide)).bind
  intro bytes hLength
  match bytes, hLength with
  | [byte], _ => exact .pure trivial

theorem meets_readFloat : (readFloat object).Meets conduct (fun _ => True) 1 := by
  unfold readFloat ObjectRef.addressAt
  apply (Architecture.meets_offsetAddress hAllows.faults).bind
  intro address _
  apply (Architecture.meets_readFloatBits hAllows.faults (hAllows.payloads _ _ (by decide))).bind
  intro bits _
  exact .pure trivial

theorem bool_orderly : bool.Orderly conduct object where
  value := (meets_readBool hAllows).bind fun _ _ => .pure trivial
  fields := by
    apply Meets.pure
    apply Fields.orderly_one
    exact (meets_readBool hAllows).bind fun _ _ => .pure rfl

theorem float_orderly : float.Orderly conduct object where
  value := (meets_readFloat hAllows).bind fun _ _ => .pure trivial
  fields := by
    apply Meets.pure
    apply Fields.orderly_one
    exact (meets_readFloat hAllows).bind fun _ _ => .pure rfl

omit hAllows in
theorem nil_orderly : nil.Orderly conduct object where
  value := .pure trivial
  fields := .pure Fields.orderly_none

omit hAllows in
/-- The elements that a stored count leaves are together no larger than a payload. -/
theorem meets_elementCount (hCount : conduct.AllowsCount object) {stored : Nat} :
    (elementCount object stored).Meets conduct (· * object.wordSize ≤ maxPayloadSize) 0 := by
  unfold elementCount
  apply (ObjectRef.meets_expectSmallInt hCount).bind
  intro count hStored
  split
  · exact .error (hCount.slotCount count)
  · rename_i hPositive
    have hFits := decodeSmallInt_fits object.arch.width stored
    apply (meets_integer (by omega)).bind
    intro less hLess
    dsimp only
    split
    · apply (ObjectRef.meets_checkPayloadSize hCount).bind
      intro _ hSize
      exact .pure hSize.2
    · exact .error (hCount.size _)

theorem meets_readElementCount :
    (readElementCount object).Meets conduct (· * object.wordSize ≤ maxPayloadSize) 1 := by
  unfold readElementCount
  apply (ObjectRef.meets_payloadWord hAllows).bind
  intro stored _
  exact meets_elementCount hAllows.count

omit hAllows in
/-- A word of the payload, as it stands, takes one read. -/
theorem meets_bodyWord (hReads : conduct.AllowsReads) {index : Nat}
    (hIndex : index * object.wordSize ≤ maxPayloadSize) {view : Nat → FieldValue}
    (hView : ∀ word, (view word).isUnavailable = false) :
    (do let word ← object.readWord (← object.bodyWordOffset index)
        return view word : Inquiry FieldValue).Meets conduct
          (fun value => value.isUnavailable = false) 1 := by
  apply (ObjectRef.meets_bodyWordOffset hIndex).bind
  intro offset _
  have hWord : object.wordSize ≤ maxPayloadSize := object.wordSize_le.trans (by decide)
  apply (ObjectRef.meets_readWord hReads.faults (hReads.payloads _ _ hWord)).bind
  intro word _
  exact .pure (hView word)

omit hAllows in
/-- Elements within a capacity that has been checked. -/
theorem elements_orderly (hReads : conduct.AllowsReads) {length capacity : Nat}
    (hLength : length ≤ capacity)
    (hCapacity : capacity * object.wordSize ≤ maxPayloadSize) :
    (elements object length).Orderly conduct where
  value index hIndex := by
    change index < length at hIndex
    have hEnd : (index + 1) * object.wordSize ≤ capacity * object.wordSize :=
      Nat.mul_le_mul_right _ (by omega)
    exact meets_bodyWord hReads (hEnd.trans hCapacity) fun _ => rfl
  count_le := by
    have hWord := Nat.le_mul_of_pos_right capacity object.wordSize_pos
    exact hLength.trans (hWord.trans hCapacity)

theorem slots_orderly : slots.Orderly conduct object where
  value := (meets_readElementCount hAllows).bind fun _ _ => .pure trivial
  fields := by
    apply (meets_readElementCount hAllows).bind
    intro length hLength
    exact .pure (elements_orderly hAllows.reads (Nat.le_refl _) hLength)

theorem meets_readArrayLength : (readArrayLength object).Meets conduct (fun _ => True) 1 := by
  unfold readArrayLength
  apply (ObjectRef.meets_fixedWordOffset (by decide)).bind
  intro offset _
  exact (ObjectRef.meets_payloadWord hAllows).imp fun _ _ => trivial

omit hAllows in
/-- The storage is an object of its own, so its errors have to be allowed as well. -/
theorem meets_readArrayStorage (hAllows : ∀ object, conduct.Allows object) :
    (readArrayStorage object).Meets conduct
      (fun found => ∃ capacity, found.2 ≤ capacity ∧
        capacity * found.1.wordSize ≤ maxPayloadSize) 2 := by
  unfold readArrayStorage
  apply (ObjectRef.meets_fixedWords (hAllows object) (by decide)).bind
  intro words hWords
  match words, hWords.1 with
  | [data, length], _ =>
    dsimp only
    split
    · apply (Architecture.meets_fewWords (hAllows object).reads (Nat.le_refl 3)).bind
      intro words hWords
      match words, hWords.1 with
      | [first, second, stored], _ =>
        apply (meets_elementCount (hAllows _).count).bind
        intro capacity hCapacity
        split
        · exact ObjectRef.meets_inconsistent (hAllows object)
        · rename_i hLength
          exact .pure ⟨capacity, Nat.le_of_not_lt hLength, hCapacity⟩
    · exact ObjectRef.meets_inconsistent (hAllows object)

omit hAllows in
theorem array_orderly (hAllows : ∀ object, conduct.Allows object) :
    array.Orderly conduct object where
  value := (meets_readArrayLength (hAllows object)).bind fun _ _ => .pure trivial
  fields := by
    apply (meets_readArrayStorage hAllows).bind
    intro found hFound
    obtain ⟨capacity, hLength, hCapacity⟩ := hFound
    exact .pure (elements_orderly (hAllows object).reads hLength hCapacity)

theorem typeDescriptor_orderly : typeDescriptor.Orderly conduct object where
  value := .pure trivial
  fields := by
    apply Meets.pure
    constructor
    · intro index hIndex
      have hSmall : index * object.wordSize ≤ 6 * 8 :=
        Nat.mul_le_mul (Nat.le_of_lt hIndex) object.wordSize_le
      change (do let word ← object.readWord (← object.bodyWordOffset index)
                 if index < TypeLayout.slotsIndex then return .tagged (object.classify word)
                 else return .int (object.arch.width.toSigned word) : Inquiry FieldValue).Meets _ _ 1
      split
      · exact meets_bodyWord hAllows.reads (hSmall.trans (by decide)) fun _ => rfl
      · exact meets_bodyWord hAllows.reads (hSmall.trans (by decide)) fun _ => rfl
    · show 6 ≤ maxPayloadSize
      decide

theorem meets_readTypeLayout {typeAddress : Nat} :
    (TypeLayout.read object.arch typeAddress).Meets conduct (fun _ => True) 1 := by
  unfold TypeLayout.read
  apply (Architecture.meets_offsetAddress hAllows.faults).bind
  intro address _
  apply (Architecture.meets_fewWords hAllows.reads (by decide)).bind
  intro words hWords
  match words, hWords.1 with
  | [slots, bytes], _ => exact .pure trivial

theorem meets_readSlotCount {slots : PartSize} :
    (readSlotCount object slots).Meets conduct (· * object.wordSize ≤ maxPayloadSize) 1 := by
  unfold readSlotCount
  have hCheck : ∀ count : Nat,
      (if count * object.wordSize < machineBound then do
          let _ ← object.checkPayloadSize (count * object.wordSize)
          return count
        else object.inconsistent (.implausibleSize count) : Inquiry Nat).Meets conduct
          (· * object.wordSize ≤ maxPayloadSize) 0 := by
    intro count
    split
    · apply (ObjectRef.meets_checkPayloadSize hAllows.count).bind
      intro _ hSize
      exact .pure hSize.2
    · exact ObjectRef.meets_inconsistent hAllows
  cases slots with
  | fixed count => exact (hCheck count).mono (Nat.zero_le _)
  | extendable =>
      apply (ObjectRef.meets_payloadWord hAllows).bind
      intro stored _
      apply (ObjectRef.meets_expectSmallInt hAllows.count).bind
      intro count _
      split
      · exact .error (hAllows.blames _)
      · exact hCheck count.toNat

/-- Behind the slots there is a part of bytes that can be read at once. -/
theorem meets_locateBytes {bytes : PartSize} {slotCount : Nat}
    (hSlots : slotCount * object.wordSize ≤ maxPayloadSize) :
    (locateBytes object bytes slotCount).Meets conduct (·.size ≤ maxPayloadSize) 1 := by
  have hWord := object.wordSize_le
  unfold locateBytes
  apply (ObjectRef.meets_bodyWordOffset hSlots).bind
  intro offset hOffset
  cases bytes with
  | fixed size =>
      apply (ObjectRef.meets_checkPayloadSize hAllows.count).bind
      intro checked hChecked
      exact .pure (hChecked.1 ▸ hChecked.2)
  | extendable =>
      apply (ObjectRef.meets_payloadWord hAllows).bind
      intro total _
      split
      · exact ObjectRef.meets_inconsistent hAllows
      · have hHeader : object.bodyOffset = 2 * object.wordSize := rfl
        have hFits : offset + object.wordSize < machineBound := by
          unfold maxPayloadSize at hSlots
          unfold machineBound
          omega
        apply (meets_natural hFits).bind
        intro start _
        apply (ObjectRef.meets_checkPayloadSize hAllows.count).bind
        intro checked hChecked
        exact .pure (hChecked.1 ▸ hChecked.2)

theorem rawSlots_orderly {count : Nat} (hCount : count * object.wordSize ≤ maxPayloadSize) :
    (rawSlots object count).Orderly conduct where
  value index hIndex := by
    change index < count at hIndex
    have hEnd := Nat.mul_le_mul_right object.wordSize (Nat.le_of_lt hIndex)
    exact meets_bodyWord hAllows.reads (hEnd.trans hCount) fun _ => rfl
  count_le := (Nat.le_mul_of_pos_right count object.wordSize_pos).trans hCount

theorem rawBytes_orderly {part : BytesPart} (hPart : part.size ≤ maxPayloadSize) :
    (rawBytes object part).Orderly conduct := by
  unfold rawBytes
  split
  · exact Fields.orderly_none
  · apply Fields.orderly_one
    apply (ObjectRef.meets_payloadBytes hAllows hPart).bind
    intro _ _
    exact .pure rfl

omit hAllows in
theorem rawBytes_count_le (object : ObjectRef) (part : BytesPart) :
    (rawBytes object part).count ≤ 1 := by
  unfold rawBytes
  split
  · exact Nat.zero_le 1
  · exact Nat.le_refl 1

theorem byLayout_orderly : byLayout.Orderly conduct object where
  value := .pure trivial
  fields := by
    apply (meets_readTypeLayout hAllows).bind
    intro layout _
    apply (meets_readSlotCount hAllows).bind
    intro slotCount hSlots
    apply (meets_locateBytes hAllows hSlots).bind
    intro part hPart
    apply Meets.pure
    apply (rawSlots_orderly hAllows hSlots).append (rawBytes_orderly hAllows hPart)
    -- A slot has at least four bytes, which leaves room to count the bytes as one more field.
    have hRow : 4 * slotCount ≤ maxPayloadSize :=
      (Nat.mul_le_mul_right slotCount object.four_le_wordSize).trans (by rwa [Nat.mul_comm])
    have hBytes := rawBytes_count_le object part
    change slotCount + _ ≤ _
    unfold maxPayloadSize at *
    omega

theorem meets_decodeUtf8 {bytes : Bytes} :
    (decodeUtf8 object bytes).Meets conduct (fun _ => True) 0 := hAllows.text.meets_decodeUtf8

theorem meets_readSymbolText {stored : Nat} :
    (readSymbolText object stored).Meets conduct (fun _ => True) 1 := by
  unfold readSymbolText
  apply (ObjectRef.meets_dataExtent hAllows).bind
  intro extent _
  apply (ObjectRef.meets_checkPayloadSize hAllows.count).bind
  intro size hSize
  apply (ObjectRef.meets_fixedWordOffset (by decide)).bind
  intro offset _
  apply (ObjectRef.meets_payloadBytes hAllows (hSize.1 ▸ hSize.2)).bind
  intro data _
  exact meets_decodeUtf8 hAllows

theorem symbol_orderly : symbol.Orderly conduct object where
  value := by
    apply (ObjectRef.meets_payloadWord hAllows).bind
    intro stored _
    exact (meets_readSymbolText hAllows).bind fun _ _ => .pure trivial
  fields := by
    apply (ObjectRef.meets_fixedWords hAllows (Nat.le_refl 3)).bind
    intro words hWords
    match words, hWords.1 with
    | [stored, next, hash], _ =>
      have hText : (do return .text (← readSymbolText object stored) : Inquiry FieldValue).Meets
          conduct (fun value => value.isUnavailable = false) 1 :=
        (meets_readSymbolText hAllows).bind fun _ _ => .pure rfl
      exact .pure (Fields.orderly_behind_known rfl rfl hText)

omit hAllows in
/-- A packed length of a word within a width gives a size within that width. -/
theorem packedLength_dataSize_lt {word : Nat} (h : word < object.arch.width.modulus) :
    (PackedLength.unpack word).count * (PackedLength.unpack word).elementSize < machineBound := by
  have hBound := object.arch.modulus_le_machineBound
  have hSize : word / 4 * (word % 4 + 1) ≤ word / 4 * 4 := Nat.mul_le_mul_left _ (by omega)
  change word / 4 * (word % 4 + 1) < machineBound
  omega

/-- Elements are at most four bytes wide, and all of them together are no more than a payload. -/
theorem meets_readTextLayout :
    (readTextLayout object).Meets conduct
      (fun layout => layout.1.elementSize ≤ 4 ∧ layout.2 ≤ maxPayloadSize) 1 := by
  unfold readTextLayout
  apply (ObjectRef.meets_fixedWords hAllows (by decide)).bind
  intro words hWords
  match words, hWords with
  | [stored, packed], hWords =>
    have hPacked := packedLength_dataSize_lt (hWords.2 packed (by simp))
    apply (meets_natural hPacked).bind
    intro dataSize _
    apply (ObjectRef.meets_checkDataSize hAllows).bind
    intro size hSize
    have hElement : packed % 4 + 1 ≤ 4 := by omega
    exact .pure ⟨hElement, hSize.1 ▸ hSize.2.1⟩

theorem meets_readText {packed : PackedLength} {size : Nat} (hElement : packed.elementSize ≤ 4)
    (hSize : size ≤ maxPayloadSize) :
    (readText object packed size).Meets conduct (fun _ => True) 1 :=
  hAllows.text.meets_readText hElement hSize

theorem string_orderly : string.Orderly conduct object where
  value := by
    apply (meets_readTextLayout hAllows).bind
    intro layout hLayout
    exact (meets_readText hAllows hLayout.1 hLayout.2).bind fun _ _ => .pure trivial
  fields := by
    apply (meets_readTextLayout hAllows).bind
    intro layout hLayout
    have hText : (do return .text (← readText object layout.1 layout.2) : Inquiry FieldValue).Meets
        conduct (fun value => value.isUnavailable = false) 1 :=
      (meets_readText hAllows hLayout.1 hLayout.2).bind fun _ _ => .pure rfl
    exact .pure (Fields.orderly_behind_known rfl rfl hText)

theorem meets_readBytesLayout :
    (readBytesLayout object).Meets conduct (· ≤ maxPayloadSize) 1 := by
  unfold readBytesLayout
  apply (ObjectRef.meets_fixedWords hAllows (by decide)).bind
  intro words hWords
  match words, hWords.1 with
  | [stored, size], _ =>
    exact (ObjectRef.meets_checkDataSize hAllows).imp fun checked h => h.1 ▸ h.2.1

theorem meets_readData {size : Nat} (hSize : size ≤ maxPayloadSize) :
    (readData object size).Meets conduct (·.length = size) 1 := hAllows.text.meets_readData hSize

theorem bytes_orderly : bytes.Orderly conduct object where
  value := by
    apply (meets_readBytesLayout hAllows).bind
    intro size hSize
    exact (meets_readData hAllows hSize).bind fun _ _ => .pure trivial
  fields := by
    apply (meets_readBytesLayout hAllows).bind
    intro size hSize
    have hData : (do return .bytes (← readData object size) : Inquiry FieldValue).Meets
        conduct (fun value => value.isUnavailable = false) 1 :=
      (meets_readData hAllows hSize).bind fun _ _ => .pure rfl
    apply Meets.pure
    apply (Fields.orderly_known rfl).append (Fields.orderly_one hData)
    show 2 ≤ maxPayloadSize
    decide

end Decoder

end HeapInspector
