import HeapInspector.Proofs.Payloads.Reading
import HeapInspector.Proofs.Results.Still
import HeapInspector.Proofs.RoundTrip.BuiltIn

/-! Objects with slots. Their stored count is judged as soon as it is read, and alone decides how many
elements there are. Each element is a read of its own, so that one which fails takes nothing away from
the others. The view by layout shows the same slots, with the count in front of them. -/
namespace HeapInspector

open Inquiry

variable {object : ObjectRef} {host : Host} {past : List Request} {stored length index : Nat}

namespace Decoder

theorem elementCount_eq_of_even (hEven : stored % 2 = 0) (hFits : stored < object.arch.width.modulus) :
    elementCount object stored = object.inconsistent (.notSmallInt stored) := by
  rw [elementCount, ObjectRef.expectSmallInt_eq_of_even hEven hFits]
  rfl

section Odd

variable (hOdd : stored % 2 = 1) (hFits : stored < object.arch.width.modulus)

include hOdd hFits

theorem elementCount_eq_of_lt_one (h : decodeSmallInt object.arch.width stored < 1) :
    elementCount object stored =
      object.inconsistent (.invalidSlotCount (decodeSmallInt object.arch.width stored)) := by
  rw [elementCount, ObjectRef.expectSmallInt_eq hOdd hFits, bind_eq, Inquiry.bind, if_pos h]

variable (hCount : decodeSmallInt object.arch.width stored = length + 1)

include hCount

theorem elementCount_eq_check : elementCount object stored =
    if length * object.wordSize < machineBound then do
      let _ ← object.checkPayloadSize (length * object.wordSize)
      return length
    else object.inconsistent (.implausibleSize length) := by
  have hInteger : Inquiry.integer (length + 1 - 1 : Int) = .done length := by
    have hBound := decodeSmallInt_fits object.arch.width stored
    rw [Int.add_sub_cancel]
    exact if_pos (by omega)
  rw [elementCount, ObjectRef.expectSmallInt_eq hOdd hFits, bind_eq, Inquiry.bind, hCount,
    if_neg (by omega), hInteger]
  rfl

theorem elementCount_eq_of_wide (h : machineBound ≤ length * object.wordSize) :
    elementCount object stored = object.inconsistent (.implausibleSize length) := by
  rw [elementCount_eq_check hOdd hFits hCount, if_neg (Nat.not_lt.mpr h)]

theorem elementCount_eq_of_large (hBound : length * object.wordSize < machineBound)
    (h : maxPayloadSize < length * object.wordSize) :
    elementCount object stored = object.inconsistent (.implausibleSize (length * object.wordSize)) := by
  rw [elementCount_eq_check hOdd hFits hCount, if_pos hBound, ObjectRef.checkPayloadSize_eq_of_lt h]
  rfl

theorem elementCount_eq (h : length * object.wordSize ≤ maxPayloadSize) :
    elementCount object stored = .done length := by
  rw [elementCount_eq_check hOdd hFits hCount, if_pos (h.trans_lt (by decide)),
    ObjectRef.checkPayloadSize_eq h]
  rfl

end Odd

section Stored

variable (hStored : ((object.readWord object.bodyOffset).run host past).outcome = .ok stored)

include hStored

theorem slots_outcome_of_rejected {kind : Inconsistency}
    (h : elementCount object stored = object.inconsistent kind) :
    ((slots.fields object).run host past).outcome =
      .error (.error (.decode object.address kind)) :=
  outcome_bind_of_error _ (outcome_of_rejected hStored h)

theorem slots_outcome (h : elementCount object stored = .done length) :
    ((slots.fields object).run host past).outcome = .ok (elements object length) := by
  have hLength : ((readElementCount object).run host past).outcome = .ok length := by
    rw [readElementCount, run_bind_of_ok _ hStored, h]
    rfl
  change ((readElementCount object >>= fun length => pure (elements object length)).run host
    past).outcome = _
  rw [run_bind_pure, hLength]
  rfl

end Stored

theorem elements_present (hSize : length * object.wordSize ≤ maxPayloadSize) (hIndex : index < length) :
    (elements object length).Presents index (elementName index)
      (fun word => .tagged (object.classify word))
      (object.readWord (object.bodyOffset + (index + 1) * object.wordSize)) := by
  have hOffset : object.bodyWordOffset (index + 1) =
      .done (object.bodyOffset + (index + 1) * object.wordSize) :=
    ObjectRef.bodyWordOffset_eq ((Nat.mul_le_mul_right _ hIndex).trans hSize)
  apply Fields.presents_of_value rfl
  · change (do
      let offset ← object.bodyWordOffset (index + 1)
      return FieldValue.tagged (object.classify (← object.readWord offset))) = _
    rw [hOffset]
    rfl
  · exact ObjectRef.meets_anyWord.neverStops

section Layout

variable {answer : Request → Response}

/-- A count that the layout accepts is a small integer of at least one, and all slots are a payload. -/
theorem exists_stored_of_readSlotCount {count : Nat}
    (h : (readSlotCount object .extendable).Yields (.still answer) count) :
    ∃ stored, (object.readWord object.bodyOffset).Yields (.still answer) stored ∧
      stored % 2 = 1 ∧ stored < object.arch.width.modulus ∧
      decodeSmallInt object.arch.width stored = count ∧ 0 < count ∧
      count * object.wordSize ≤ maxPayloadSize := by
  have hSize := (meets_readSlotCount (Conduct.payloads_allows object)).post_of_mayReturn h.mayReturn
  obtain ⟨stored, hStored, hBehind⟩ := exists_yields_of_bind h
  have hFits := ObjectRef.meets_anyWord.post_of_mayReturn hStored.mayReturn
  obtain ⟨found, hFound, hJudged⟩ := exists_yields_of_bind hBehind
  split at hJudged
  · exact absurd hJudged not_yields_fail
  · rename_i hPositive
    obtain ⟨slots, hSlots, hChecked⟩ := exists_yields_of_bind hJudged
    have hSame : found.toNat = count := by
      rw [(Yields.pure _).unique hSlots]
      dsimp only at hChecked
      split at hChecked
      · obtain ⟨_, _, hCount⟩ := exists_yields_of_bind hChecked
        exact (Yields.pure _).unique hCount
      · exact absurd hChecked not_yields_fail
    rcases Nat.mod_two_eq_zero_or_one stored with hEven | hOdd
    · rw [ObjectRef.expectSmallInt_eq_of_even hEven hFits] at hFound
      exact absurd hFound not_yields_fail
    · rw [ObjectRef.expectSmallInt_eq hOdd hFits] at hFound
      have hValue := (Yields.pure _).unique hFound
      exact ⟨stored, hStored, hOdd, hFits, by omega, by omega, hSize⟩

/-- A fixed part of no bytes is found without asking, and shows nothing. -/
theorem rawBytes_eq_none {count : Nat} {part : BytesPart}
    (h : (locateBytes object (.fixed 0) count).Yields (.still answer) part) :
    rawBytes object part = Fields.none := by
  obtain ⟨offset, _, hBehind⟩ := exists_yields_of_bind h
  obtain ⟨size, hSize, hPart⟩ := exists_yields_of_bind hBehind
  rw [ObjectRef.checkPayloadSize_eq (Nat.zero_le _)] at hSize
  rw [← (Yields.pure _).unique hPart, ← (Yields.pure _).unique hSize]
  exact if_pos rfl

/-- What the fields by layout are where there are extendable slots and no bytes. -/
theorem byLayout_eq_rawSlots {fields : Fields}
    (hLayout : (TypeLayout.read object.arch object.header.typeAddress).Yields (.still answer)
      ⟨.extendable, .fixed 0⟩)
    (hFields : (byLayout.fields object).Yields (.still answer) fields) :
    ∃ count, (readSlotCount object .extendable).Yields (.still answer) count ∧
      fields = rawSlots object count ++ Fields.none := by
  obtain ⟨layout, hRead, hSlots⟩ := exists_yields_of_bind hFields
  obtain rfl := hRead.unique hLayout
  obtain ⟨count, hCount, hBytes⟩ := exists_yields_of_bind hSlots
  obtain ⟨part, hPart, hParts⟩ := exists_yields_of_bind hBytes
  rw [← (Yields.pure _).unique hParts, rawBytes_eq_none hPart]
  exact ⟨count, hCount, rfl⟩

/-- The elements and the slots behind the first ask for the same words, so they show the same. -/
theorem exists_shown_elements {length : Nat}
    (hSize : (length + 1) * object.wordSize ≤ maxPayloadSize) :
    ∃ values : List FieldValue, values.length = length ∧
      (elements object length).Show (.still answer) (values.mapIdx fun index value =>
        ⟨elementName index, value⟩) ∧
      ∀ index, (h : index < values.length) →
        ((rawSlots object (length + 1)).field (index + 1)).Yields (.still answer)
          ⟨slotName (index + 1), values[index]⟩ := by
  have hOrderly : (rawSlots object (length + 1)).Orderly Conduct.payloads :=
    rawSlots_orderly (Conduct.payloads_allows object) hSize
  -- What the slot behind the first shows is chosen before the views are looked at, so it serves both.
  have hEach (index : Fin length) := Fields.exists_shown answer
    (hOrderly.value (index + 1) (Nat.succ_lt_succ index.isLt)).neverStops
  choose value hShown using hEach
  refine ⟨List.ofFn value, List.length_ofFn, ⟨?_, ?_⟩, ?_⟩
  · simp [elements]
  · intro index hIndex
    have hBelow : index < length := by simpa using hIndex
    have hField : ((elements object length).field index).Yields (.still answer)
        ⟨elementName index, value ⟨index, hBelow⟩⟩ := hShown ⟨index, hBelow⟩ _ _ rfl
    simpa using hField
  · intro index hIndex
    have hBelow : index < length := by simpa using hIndex
    have hField : ((rawSlots object (length + 1)).field (index + 1)).Yields (.still answer)
        ⟨slotName (index + 1), value ⟨index, hBelow⟩⟩ := hShown ⟨index, hBelow⟩ _ _ rfl
    simpa using hField

/-- The slot in front is the count. -/
theorem rawSlots_first (hStored : (object.readWord object.bodyOffset).Yields (.still answer) stored)
    (hOdd : stored % 2 = 1) (hFits : stored < object.arch.width.modulus) :
    ((rawSlots object (length + 1)).field 0).Yields (.still answer)
      ⟨slotName 0, .tagged (.smallInt (decodeSmallInt object.arch.width stored))⟩ := by
  have hOffset : object.bodyWordOffset 0 = .done object.bodyOffset := by
    rw [ObjectRef.fixedWordOffset_eq (Nat.zero_le _), Nat.zero_mul, Nat.add_zero]
  apply Fields.field_yields
  change (do
    let word ← object.readWord (← object.bodyWordOffset 0)
    return FieldValue.tagged (object.classify word) : Inquiry FieldValue).Yields _ _
  rw [hOffset, ← Tagged.classify_of_odd hOdd hFits]
  exact hStored.bind (.pure _)

theorem rawSlots_show_cons {values : List FieldValue} {front : FieldValue}
    (hFirst : ((rawSlots object (values.length + 1)).field 0).Yields host ⟨slotName 0, front⟩)
    (hBehind : ∀ index, (h : index < values.length) →
      ((rawSlots object (values.length + 1)).field (index + 1)).Yields host
        ⟨slotName (index + 1), values[index]⟩) :
    (rawSlots object (values.length + 1)).Show host
      (⟨slotName 0, front⟩ :: values.mapIdx fun index value => ⟨slotName (index + 1), value⟩) := by
  constructor
  · simp [rawSlots]
  · intro index hIndex
    cases index with
    | zero => exact hFirst
    | succ index =>
        have hBelow : index < values.length := by simpa using hIndex
        simpa using hBehind index hBelow

end Layout

end Decoder

/-- Both views of an object with slots are one list of values. Over memory that does not change, where the
type of an object declares extendable slots and no bytes: if the object can be shown by this layout, it can
be shown as slots. By layout the values stand behind their own count, which counts itself, and as slots
they stand alone; each of them, be it a value or an error, is the same in both. -/
theorem slots_agree_with_layout {answer : Request → Response} {fields : Fields}
    (hLayout : (TypeLayout.read object.arch object.header.typeAddress).Yields (.still answer)
      ⟨.extendable, .fixed 0⟩)
    (hFields : (Decoder.byLayout.fields object).Yields (.still answer) fields) :
    ∃ (slots : Fields) (values : List FieldValue),
      (Decoder.slots.fields object).Yields (.still answer) slots ∧
      slots.Show (.still answer) (values.mapIdx fun index value =>
        ⟨"[" ++ Numeral.decimal index ++ "]", value⟩) ∧
      fields.Show (.still answer)
        (⟨"slot[0]", .tagged (.smallInt (values.length + 1))⟩ :: values.mapIdx fun index value =>
          ⟨"slot[" ++ Numeral.decimal (index + 1) ++ "]", value⟩) := by
  obtain ⟨count, hCount, rfl⟩ := Decoder.byLayout_eq_rawSlots hLayout hFields
  obtain ⟨stored, hStored, hOdd, hFits, hValue, hPositive, hSize⟩ :=
    Decoder.exists_stored_of_readSlotCount hCount
  -- All slots are within a payload by the check of the layout, and so are those behind the count.
  obtain ⟨length, rfl⟩ : ∃ length, count = length + 1 := ⟨count - 1, by omega⟩
  have hLength : length * object.wordSize ≤ maxPayloadSize :=
    (Nat.mul_le_mul_right _ (Nat.le_succ length)).trans hSize
  have hElements : Decoder.elementCount object stored = .done length :=
    Decoder.elementCount_eq hOdd hFits (by omega) hLength
  have hSlots : (Decoder.slots.fields object).Yields (.still answer)
      (Decoder.elements object length) := fun past =>
    Decoder.slots_outcome (hStored past) hElements
  obtain ⟨values, rfl, hAlone, hBehind⟩ := Decoder.exists_shown_elements hSize
  have hFirst : ((Decoder.rawSlots object (values.length + 1)).field 0).Yields (.still answer) _ :=
    Decoder.rawSlots_first hStored hOdd hFits
  rw [hValue] at hFirst
  refine ⟨_, values, hSlots, hAlone, ?_⟩
  have hNone : Fields.none.Show (.still answer) [] := Fields.show_none
  have hAll := (Decoder.rawSlots_show_cons hFirst hBehind).append hNone
  rwa [List.append_nil] at hAll

/-- A row of two elements, and the descriptor of its type. The image ends before the second element. -/
def MemoryImage.cutRow : MemoryImage :=
  ⟨⟨.w32, .big⟩,
    [⟨0x1000, [0x2000, 0, 7, 27].flatMap (Architecture.encodeWord ⟨.w32, .big⟩)⟩,
      ⟨0x2000, [0, 0, 0, 0, 0, Width.mask .w32, 0, 0].flatMap
        (Architecture.encodeWord ⟨.w32, .big⟩)⟩], .empty⟩

/-- The first element is the same in both views, and so is the error in the place of the second. -/
theorem slots_agree_with_layout_cut_row :
    let object : ObjectRef := ⟨⟨.w32, .big⟩, 0x1000, .ofWords 0x2000 0⟩
    let host := MemoryImage.cutRow.host
    let fault : Error := .memoryAccess ⟨0x1010, 4, "address range is not mapped"⟩
    (TypeLayout.read object.arch object.header.typeAddress).Yields host ⟨.extendable, .fixed 0⟩ ∧
    ∃ fields slots, (Decoder.byLayout.fields object).Yields host fields ∧
      fields.all.Yields host [⟨"slot[0]", .tagged (.smallInt 3)⟩, ⟨"slot[1]", .tagged (.smallInt 13)⟩,
        ⟨"slot[2]", .unavailable fault⟩] ∧
      (Decoder.slots.fields object).Yields host slots ∧
      slots.all.Yields host [⟨"[0]", .tagged (.smallInt 13)⟩, ⟨"[1]", .unavailable fault⟩] := by
  intro object host fault
  have hRead : ((TypeLayout.read object.arch object.header.typeAddress).run host []).outcome =
      .ok ⟨.extendable, .fixed 0⟩ := by decide +kernel
  have hShown : ((Decoder.byLayout.fields object >>= Fields.all).run host []).outcome =
      .ok [⟨"slot[0]", .tagged (.smallInt 3)⟩, ⟨"slot[1]", .tagged (.smallInt 13)⟩,
        ⟨"slot[2]", .unavailable fault⟩] := by decide +kernel
  obtain ⟨fields, hFields, hAll⟩ := exists_yields_of_bind (yields_of_outcome hShown)
  obtain ⟨slots, values, hSlots, hAlone, hBehind⟩ :=
    slots_agree_with_layout (yields_of_outcome hRead) hFields
  have hSame := hBehind.all.unique hAll
  obtain ⟨first, second, rfl⟩ : ∃ first second, values = [first, second] := by
    apply List.length_eq_two.mp
    simpa using congrArg List.length hSame
  obtain ⟨⟨_, rfl⟩, _, rfl⟩ :
      (_ ∧ first = .tagged (.smallInt 13)) ∧ _ ∧ second = .unavailable fault := by
    simpa using hSame
  have hZero : Numeral.decimal 0 = "0" := by decide +kernel
  have hOne : Numeral.decimal 1 = "1" := by decide +kernel
  refine ⟨yields_of_outcome hRead, fields, slots, hFields, hAll, hSlots, ?_⟩
  have hTold : slots.all.Yields host _ := hAlone.all
  simpa [hZero, hOne] using hTold

/-- The stored count of a tuple or a storage decides what becomes of the object. A word that is no small
integer, a count below one, and slots that are more than a payload are refused, each with an error of its
own. Otherwise there are as many fields as the count leaves, in order. Each of them is one word, read when
its turn comes, and shows its own error if it cannot be read, whatever has become of the others. -/
theorem slots_follow_their_count {typeName : String}
    (hType : TypeKey.ofName typeName ∈ [⟨"tuple"⟩, ⟨"array_slots"⟩])
    (hStored : ((object.readWord object.bodyOffset).run host past).outcome = .ok stored) :
    let outcome := (((Registry.builtin.lookup (some typeName)).fields object).run host past).outcome
    let rejected (kind : Inconsistency) := outcome = .error (.error (.decode object.address kind))
    let count := decodeSmallInt object.arch.width stored
    (stored % 2 = 0 → rejected (.notSmallInt stored)) ∧
    (stored % 2 = 1 → count < 1 → rejected (.invalidSlotCount count)) ∧
    ∀ length : Nat, stored % 2 = 1 → count = length + 1 →
      (machineBound ≤ length * object.wordSize → rejected (.implausibleSize length)) ∧
      (length * object.wordSize < machineBound → maxPayloadSize < length * object.wordSize →
        rejected (.implausibleSize (length * object.wordSize))) ∧
      (length * object.wordSize ≤ maxPayloadSize → ∃ fields, outcome = .ok fields ∧
        fields.count = length ∧
        (∀ index < length, fields.Presents index ("[" ++ Numeral.decimal index ++ "]")
          (fun word => .tagged (.classify object.arch.width word))
          (object.readWord (object.bodyOffset + (index + 1) * object.wordSize))) ∧
        ∀ later laterPast, ∃ list, (fields.all.run later laterPast).outcome = .ok list ∧
          list.length = length ∧ ∀ index, (hIndex : index < list.length) →
            ∃ before, ((fields.field index).run later before).outcome = .ok list[index]) := by
  have hFits : stored < object.arch.width.modulus :=
    ObjectRef.meets_anyWord.post_of_mayReturn ⟨host, past, hStored⟩
  have hKey : TypeKey.ofName typeName ∈ (Content.slots []).keys := hType
  rw [Content.lookup_builtin hKey]
  refine ⟨?_, ?_, ?_⟩
  · intro hEven
    exact Decoder.slots_outcome_of_rejected hStored (Decoder.elementCount_eq_of_even hEven hFits)
  · intro hOdd hSmall
    exact Decoder.slots_outcome_of_rejected hStored
      (Decoder.elementCount_eq_of_lt_one hOdd hFits hSmall)
  · intro length hOdd hCount
    refine ⟨?_, ?_, ?_⟩
    · intro hWide
      exact Decoder.slots_outcome_of_rejected hStored
        (Decoder.elementCount_eq_of_wide hOdd hFits hCount hWide)
    · intro hBound hLarge
      exact Decoder.slots_outcome_of_rejected hStored
        (Decoder.elementCount_eq_of_large hOdd hFits hCount hBound hLarge)
    · intro hSize
      have hPresents (index : Nat) (hIndex : index < length) :
          (Decoder.elements object length).Presents index _ _ _ :=
        Decoder.elements_present hSize hIndex
      exact ⟨Decoder.elements object length,
        Decoder.slots_outcome hStored (Decoder.elementCount_eq hOdd hFits hCount hSize), rfl,
        hPresents, Fields.exists_run_all fun index hIndex => (hPresents index hIndex).alwaysReturns⟩

/-- A host of a tuple with three elements, the second of which cannot be read. -/
def Host.torn : Host := .still fun request =>
  if request.address = 0x1008 then .ok [9, 0, 0, 0]
  else if request.address = 0x1010 then .error ⟨0x1010, 4, "unmapped"⟩
  else .ok [7, 0, 0, 0]

/-- All three elements are there, the one behind the fault included. -/
theorem slots_follow_their_count_torn :
    let object : ObjectRef := ⟨⟨.w32, .little⟩, 0x1000, .ofWords 0x2000 0⟩
    TypeKey.ofName "type_Tuple" ∈ [⟨"tuple"⟩, ⟨"array_slots"⟩] ∧
    ((object.readWord object.bodyOffset).run Host.torn []).outcome = .ok 9 ∧
    ∃ fields, (((Registry.builtin.lookup (some "type_Tuple")).fields object).run Host.torn
        []).outcome = .ok fields ∧ fields.count = 3 ∧
      ((fields.field 1).run Host.torn []).outcome =
        .ok ⟨"[1]", .unavailable (.memoryAccess ⟨0x1010, 4, "unmapped"⟩)⟩ ∧
      ((fields.field 2).run Host.torn []).outcome = .ok ⟨"[2]", .tagged (.smallInt 3)⟩ := by
  intro object
  have hType : TypeKey.ofName "type_Tuple" ∈ [⟨"tuple"⟩, ⟨"array_slots"⟩] := by decide +kernel
  have hStored : ((object.readWord object.bodyOffset).run Host.torn []).outcome = .ok 9 := by
    decide +kernel
  obtain ⟨_, _, hSlots⟩ := slots_follow_their_count hType hStored
  obtain ⟨_, _, hShown⟩ := hSlots 3 (by decide) (by decide)
  obtain ⟨fields, hFields, hCount, hPresents, _⟩ := hShown (by decide)
  have hSecond : ((object.readWord 16).run Host.torn []).outcome =
      .error (.error (.memoryAccess ⟨0x1010, 4, "unmapped"⟩)) := by decide +kernel
  have hThird : ((object.readWord 20).run Host.torn []).outcome = .ok 7 := by decide +kernel
  have hTorn := (hPresents 1 (by decide)).run Host.torn [] (.error _) hSecond
  have hBehind := (hPresents 2 (by decide)).run Host.torn [] (.ok _) hThird
  refine ⟨hType, hStored, fields, hFields, hCount, ?_, ?_⟩
  · rw [hTorn]
    decide +kernel
  · rw [hBehind]
    decide +kernel

end HeapInspector
