import HeapInspector.Proofs.Results.Storage

/-! Which object an error names. Whoever looks for corrupt memory goes where the error points, so every
contradiction is reported at the object that holds it. That is the object that is being decoded, except
for the count in the storage of an array, which stands in another object. -/
namespace HeapInspector

open Inquiry

variable {host : Host} {past : List Request} {object : ObjectRef} {data length address named : Nat}
  {kind : Inconsistency}

section Blaming

variable {blames : Nat → Inconsistency → Prop}

/-- The conduct that finds fault only with the objects, and only for the reasons, that are to blame. The
host may be asked for anything, and its faults are passed on. -/
def Conduct.blaming (blames : Nat → Inconsistency → Prop) : Conduct :=
  ⟨fun _ => True, fun e => ∀ named kind, e = .decode named kind → blames named kind⟩

theorem Conduct.blaming_reports (h : blames named kind) :
    (blaming blames).reports (.decode named kind) := by
  rintro other reason ⟨⟩
  exact h

theorem Conduct.blaming_allowsReads : (blaming blames).AllowsReads :=
  ⟨fun _ => nofun, fun _ _ _ _ => trivial⟩

theorem Conduct.blaming_allows (h : ∀ kind, blames object.address kind) :
    (blaming blames).Allows object :=
  ⟨blaming_allowsReads.faults, blaming_allowsReads.payloads, fun kind => blaming_reports (h kind)⟩

/-- An error that a run ends in names an object that is to blame. -/
theorem Inquiry.Meets.blames_of_outcome {α : Type} {i : Inquiry α} {post : α → Prop} {reads : Nat}
    (h : i.Meets (Conduct.blaming blames) post reads)
    (hEnd : (i.run host past).outcome = .error (.error (.decode named kind))) : blames named kind :=
  h.reports_of_outcome hEnd named kind rfl

end Blaming

namespace Decoder

/-- What can be wrong with an array whose data word and length are these, and where it is wrong: the data
word and the length stand in the array, and the count stands in the storage that the data word references. -/
inductive ArrayBlame (object : ObjectRef) (data length : Nat) : Nat → Inconsistency → Prop where
  | notReference (hData : ∀ address, object.classify data ≠ .reference address) :
      ArrayBlame object data length object.address (.notReference data)
  | lengthExceedsStorage {capacity : Nat} (hOver : capacity < length) :
      ArrayBlame object data length object.address (.lengthExceedsStorage length capacity)
  | notSmallInt {address stored : Nat} (hData : object.classify data = .reference address) :
      ArrayBlame object data length address (.notSmallInt stored)
  | invalidSlotCount {address : Nat} {count : Int} (hData : object.classify data = .reference address) :
      ArrayBlame object data length address (.invalidSlotCount count)
  | implausibleSize {address size : Nat} (hData : object.classify data = .reference address) :
      ArrayBlame object data length address (.implausibleSize size)

theorem arrayBlame_allowsCount (hData : object.classify data = .reference address)
    (header : ObjectHeader) :
    (Conduct.blaming (ArrayBlame object data length)).AllowsCount ⟨object.arch, address, header⟩ :=
  ⟨fun _ => Conduct.blaming_reports (.notSmallInt hData),
    fun _ => Conduct.blaming_reports (.invalidSlotCount hData),
    fun _ => Conduct.blaming_reports (.implausibleSize hData)⟩

theorem meets_checkLength (hData : object.classify data = .reference address) {first second stored : Nat} :
    (checkLength object (storageAt object address first second) stored length).Meets
      (Conduct.blaming (ArrayBlame object data length)) (fun _ => True) 0 := by
  apply (meets_elementCount (arrayBlame_allowsCount hData _)).bind
  intro capacity _
  split
  · rename_i hOver
    exact .error (Conduct.blaming_reports (.lengthExceedsStorage hOver))
  · exact .pure trivial

/-- What is left to do once the data word is known to reference the storage. -/
theorem meets_storage (hData : object.classify data = .reference address) :
    (do
      match ← object.arch.readWords address 3 with
      | first :: second :: stored :: _ =>
          checkLength object (storageAt object address first second) stored length
      | _ => Inquiry.defect .indexOutOfBounds).Meets
        (Conduct.blaming (ArrayBlame object data length)) (fun _ => True) (0 + 1) := by
  apply (Architecture.meets_fewWords Conduct.blaming_allowsReads (Nat.le_refl 3)).bind
  intro words hWords
  match words, hWords.1 with
  | [first, second, stored], _ => exact meets_checkLength hData

/-- Reading the two words finds fault with nothing. From there on the words say who is to blame. -/
theorem arrayBlame_of_readArrayStorage
    (h : ((readArrayStorage object).run host past).outcome = .error (.error (.decode named kind))) :
    ∃ data length, ((object.readWords object.bodyOffset 2).run host past).outcome = .ok [data, length] ∧
      ArrayBlame object data length named kind := by
  have hReads : (Conduct.blaming fun _ _ => False).AllowsReads := Conduct.blaming_allowsReads
  have hWords : (object.readWords object.bodyOffset 2).Meets (Conduct.blaming fun _ _ => False) _ 1 :=
    ObjectRef.meets_readWords hReads.faults
      ((Nat.mul_le_mul_left 2 object.wordSize_le).trans_lt (by decide)) fun _ => trivial
  rcases failure_of_bind h with hFault | ⟨words, later, hRead, hBehind⟩
  · exact (hWords.blames_of_outcome hFault).elim
  · have hLength := (hWords.post_of_mayReturn ⟨host, past, hRead⟩).1
    match words, hLength with
    | [data, length], _ =>
      refine ⟨data, length, hRead, ?_⟩
      dsimp only at hBehind
      split at hBehind
      · rename_i address hData
        exact (meets_storage hData).blames_of_outcome hBehind
      · rename_i hData
        cases hBehind
        exact .notReference hData

/-- The value of a decoder finds fault with the object alone, that of arrays included. -/
theorem meets_value_blaming {decoder : Decoder} (hMem : decoder ∈ standard) (object : ObjectRef) :
    (decoder.value object).Meets (Conduct.blaming fun named _ => named = object.address)
      (fun _ => True) 2 := by
  have hAllows : (Conduct.blaming fun named _ => named = object.address).Allows object :=
    Conduct.blaming_allows fun _ => rfl
  by_cases hArray : decoder = array
  · subst hArray
    have hLength := meets_readArrayLength hAllows
    exact (hLength.bind fun _ _ => .pure trivial).mono (Nat.le_succ 1)
  · exact (orderly_of_ne_array hAllows hMem hArray).value

/-- Once they are located, the fields of a decoder find fault with the object alone. The elements of an
array are words as they stand, which nothing can be wrong with. -/
theorem fields_blaming {decoder : Decoder} (hMem : decoder ∈ standard) {fields : Fields}
    (h : (decoder.fields object).MayReturn fields) :
    fields.Orderly (Conduct.blaming fun named _ => named = object.address ∧ decoder ≠ array) := by
  by_cases hArray : decoder = array
  · subst hArray
    have hLocated : (array.fields object).Meets Conduct.payloads
        (Fields.Orderly (Conduct.blaming fun named _ => named = object.address ∧ array ≠ array))
        (0 + 2) := by
      apply (meets_readArrayStorage Conduct.payloads_allows).bind
      rintro found ⟨capacity, hLength, hCapacity⟩
      exact .pure (elements_orderly Conduct.blaming_allowsReads hLength hCapacity)
    exact hLocated.post_of_mayReturn h
  · have hAllows : (Conduct.blaming fun named _ =>
        named = object.address ∧ decoder ≠ array).Allows object :=
      Conduct.blaming_allows fun _ => ⟨rfl, hArray⟩
    exact (orderly_of_ne_array hAllows hMem hArray).fields.post_of_mayReturn h

end Decoder

/-- Describing finds fault with a reference that is not aligned, and with nothing else. The object that is
described is the one that the word references. -/
theorem Introspector.meets_describe_blaming (i : Introspector) (word : Nat) :
    (i.describe word).Meets
      (Conduct.blaming fun named kind =>
        Tagged.classify i.arch.width word = .reference named ∧ kind = .misalignedReference)
      (fun description => ∀ d, description = .object d →
        Tagged.classify i.arch.width word = .reference d.address) 1 := by
  unfold describe
  cases hClass : Tagged.classify i.arch.width word with
  | null => exact .pure (by simp)
  | smallInt value => exact .pure (by simp)
  | reference address =>
      apply (meets_describeObject Conduct.blaming_allowsReads.faults (fun _ => trivial)
        (Conduct.blaming_reports ⟨rfl, rfl⟩)).bind
      rintro d ⟨rfl, _⟩
      apply Meets.pure
      rintro found ⟨⟩
      rfl

/-- Errors name the object that is corrupt, whatever the host responds. Describing a word finds fault with
it only for a reference that is not aligned, and names the object that it references; the object that is
described is that one. The value, the fields, and the fields that are unavailable name the object that
they belong to. Only what is wrong with the count of an array's storage is reported at the address in the
data word of the array. -/
theorem decode_errors_name_their_object (i : Introspector) (word : Nat) (decoder : Decoder)
    (hDecoder : decoder ∈ Decoder.standard) (object : ObjectRef) (host : Host) (past : List Request) :
    (∀ named kind, ((i.describe word).run host past).outcome = .error (.error (.decode named kind)) →
      Tagged.classify i.arch.width word = .reference named ∧ kind = .misalignedReference) ∧
    (∀ d, ((i.describe word).run host past).outcome = .ok (.object d) →
      Tagged.classify i.arch.width word = .reference d.address) ∧
    (∀ named kind,
      ((decoder.value object).run host past).outcome = .error (.error (.decode named kind)) →
        named = object.address) ∧
    (∀ named kind,
      ((decoder.fields object).run host past).outcome = .error (.error (.decode named kind)) →
        (decoder ≠ .array → named = object.address) ∧
        (decoder = .array → ∃ data length,
          ((object.readWords object.bodyOffset 2).run host past).outcome = .ok [data, length] ∧
          Decoder.ArrayBlame object data length named kind)) ∧
    ∀ fields, ((decoder.fields object).run host past).outcome = .ok fields →
      ∀ index < fields.count, ∀ later laterPast field,
        ((fields.field index).run later laterPast).outcome = .ok field →
          ∀ named kind, field.value = .unavailable (.decode named kind) →
            named = object.address ∧ decoder ≠ .array := by
  have hDescribe := i.meets_describe_blaming word
  refine ⟨?_, ?_, ?_, ?_, ?_⟩
  · exact fun named kind hFails => hDescribe.blames_of_outcome hFails
  · exact fun d hReturn => hDescribe.post_of_mayReturn ⟨host, past, hReturn⟩ d rfl
  · exact fun named kind hFails =>
      (Decoder.meets_value_blaming hDecoder object).blames_of_outcome hFails
  · intro named kind hFails
    constructor
    · intro hOther
      have hAllows : (Conduct.blaming fun named _ => named = object.address).Allows object :=
        Conduct.blaming_allows fun _ => rfl
      exact (Decoder.orderly_of_ne_array hAllows hDecoder hOther).fields.blames_of_outcome hFails
    · rintro rfl
      rcases failure_of_bind hFails with hStorage | ⟨found, later, _, hLocated⟩
      · exact Decoder.arrayBlame_of_readArrayStorage hStorage
      · cases hLocated
  · intro fields hFields index hIndex later laterPast field hReturn named kind hUnavailable
    have hOrderly := Decoder.fields_blaming hDecoder ⟨host, past, hFields⟩
    have hReports := (hOrderly.meets_field hIndex).post_of_mayReturn ⟨later, laterPast, hReturn⟩
    exact hReports _ hUnavailable named kind rfl

namespace MemoryImage

/-- An array of one element, with a storage whose count is the reference to another object. -/
def uncountedStorage : MemoryImage :=
  ⟨⟨.w64, .little⟩,
    [⟨0x3000, [0x2000, 0, 0x4000, 3].flatMap (Architecture.encodeWord ⟨.w64, .little⟩)⟩,
      ⟨0x4000, [0x2100, 0, 0x5000, 7].flatMap (Architecture.encodeWord ⟨.w64, .little⟩)⟩], .empty⟩

end MemoryImage

/-- The storage is named, and not the array, which is intact. -/
theorem decode_errors_name_their_object_storage :
    let array : ObjectRef := ⟨⟨.w64, .little⟩, 0x3000, .ofWords 0x2000 0⟩
    Decoder.array ∈ Decoder.standard ∧
    ((Decoder.array.fields array).run MemoryImage.uncountedStorage.host []).outcome =
      .error (.error (.decode 0x4000 (.notSmallInt 0x5000))) ∧
    ∃ data length, ((array.readWords array.bodyOffset 2).run MemoryImage.uncountedStorage.host []).outcome =
        .ok [data, length] ∧
      Decoder.ArrayBlame array data length 0x4000 (.notSmallInt 0x5000) := by
  intro array
  have hMem : Decoder.array ∈ Decoder.standard := by simp [Decoder.standard, Registry.builtin]
  have hCounted : ((do return (← Decoder.array.fields array).count : Inquiry Nat).run
      MemoryImage.uncountedStorage.host []).outcome =
        .error (.error (.decode 0x4000 (.notSmallInt 0x5000))) := by decide +kernel
  have hFails : ((Decoder.array.fields array).run MemoryImage.uncountedStorage.host []).outcome =
      .error (.error (.decode 0x4000 (.notSmallInt 0x5000))) := by
    rcases failure_of_bind hCounted with hFails | ⟨_, _, _, hDone⟩
    · exact hFails
    · cases hDone
  obtain ⟨_, _, _, hFields, _⟩ := decode_errors_name_their_object
    (MemoryImage.uncountedStorage.introspector .builtin) 0x3000 .array hMem array
    MemoryImage.uncountedStorage.host []
  exact ⟨hMem, hFails, (hFields _ _ hFails).2 rfl⟩

end HeapInspector
