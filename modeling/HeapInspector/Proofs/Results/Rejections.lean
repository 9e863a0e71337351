import HeapInspector.Proofs.Results.Storage

/-! Objects that contradict themselves. Counts, sizes and links are checked by the value and by the fields
of an object, each when it comes to them. Where both begin with the same checks they reject the same
objects. A symbol leaves the check of its size to the field that needs it, and the value of an array looks
at the length alone. -/
namespace HeapInspector

open Inquiry

/-- A contradiction of counts, sizes and links, which is found before any data is looked at. -/
def Inconsistency.isStructural : Inconsistency → Bool
  | invalidUtf8 => false
  | invalidCodePoint _ => false
  | misalignedReference => false
  | _ => true

def Error.isStructural (e : Error) : Bool := e.inconsistency?.any Inconsistency.isStructural

/-- The conduct of what only goes on where the structure has been checked. -/
def Conduct.sound : Conduct := ⟨fun _ => True, fun e => e.isStructural = false⟩

theorem Conduct.sound_allowsText (object : ObjectRef) : sound.AllowsText object :=
  ⟨fun _ => rfl, fun _ _ _ _ => trivial, rfl, fun _ => rfl⟩

variable {α β : Type} {answer : Request → Response} {image : MemoryImage} {object : ObjectRef}

namespace Decoder

variable {decoder : Decoder}

/-- The fields and the value report the same contradictions. -/
def RejectsAlike (host : Host) (object : ObjectRef) (decoder : Decoder) : Prop :=
  ∀ e : Error, e.isStructural = true →
    ((decoder.fields object).Fails host e ↔ (decoder.value object).Fails host e)

/-- The form of a decoder that makes its checks first, for the fields and for the value, and then reads
what has been found to be sound. -/
theorem rejectsAlike_of_checked (payload : α → Inquiry β) {checks : Inquiry α} {locate : α → Fields}
    {view : β → Option String}
    (hFields : decoder.fields object = do return locate (← checks))
    (hValue : decoder.value object = do return view (← payload (← checks)))
    (hSound : ∀ found, checks.MayReturn found →
      (payload found).Meets Conduct.sound (fun _ => True) 1) :
    decoder.RejectsAlike (.still answer) object := by
  intro e hStructural
  rw [hFields, hValue]
  constructor
  · intro hFails
    rcases fails_of_bind hFails with hChecks | ⟨found, _, hLocated⟩
    · exact hChecks.bind
    · cases hLocated []
  · intro hFails
    rcases fails_of_bind hFails with hChecks | ⟨found, hFound, hBehind⟩
    · exact hChecks.bind
    · rcases fails_of_bind hBehind with hPayload | ⟨result, _, hViewed⟩
      · have hSoundError : e.isStructural = false :=
          (hSound found hFound.mayReturn).reports_of_fails hPayload
        rw [hStructural] at hSoundError
        cases hSoundError
      · cases hViewed []

theorem slots_rejectsAlike : slots.RejectsAlike (.still answer) object :=
  rejectsAlike_of_checked (fun count => pure count) rfl rfl fun _ _ => .pure trivial

theorem string_rejectsAlike : string.RejectsAlike (.still answer) object := by
  apply rejectsAlike_of_checked (fun layout => readText object layout.1 layout.2) rfl rfl
  intro layout hLayout
  have hPost := (meets_readTextLayout (Conduct.payloads_allows object)).post_of_mayReturn hLayout
  exact (Conduct.sound_allowsText object).meets_readText hPost.1 hPost.2

theorem bytes_rejectsAlike : bytes.RejectsAlike (.still answer) object := by
  apply rejectsAlike_of_checked (readData object) rfl rfl
  intro size hSize
  have hLe := (meets_readBytesLayout (Conduct.payloads_allows object)).post_of_mayReturn hSize
  exact ((Conduct.sound_allowsText object).meets_readData hLe).imp fun _ _ => trivial

/-- Whatever the stored size of a symbol is, its fields are located. What the value fails with stands in
the field of the text. -/
theorem symbol_value_fails_iff (hImage : image.Separated) {words : List Nat}
    (hWords : (object.readWords object.bodyOffset 3).Yields image.host words) :
    ∃ fields list, (symbol.fields object).Yields image.host fields ∧
      fields.all.Yields image.host list ∧
      ∀ e, (symbol.value object).Fails image.host e ↔ ⟨"text", .unavailable e⟩ ∈ list := by
  have hLength := ((ObjectRef.meets_fixedWords (Conduct.payloads_allows object)
    (Nat.le_refl 3)).post_of_mayReturn hWords.mayReturn).1
  obtain ⟨fields, hFields⟩ : ∃ fields, (symbol.fields object).Yields image.host fields := by
    match words, hLength, hWords with
    | [stored, next, hash], _, hWords => exact ⟨_, hWords.bind (.pure _)⟩
  obtain ⟨list, hList, hFound, hTold, hFailed⟩ := symbol_tellsField hImage fields hFields
  refine ⟨fields, list, hFields, hList, fun e => ⟨?_, hFailed e⟩⟩
  intro hFails
  obtain ⟨value, hMem⟩ := hFound
  cases hUnavailable : value.isUnavailable with
  | false => exact absurd hFails ((hTold value hMem hUnavailable).not_fails e)
  | true =>
      cases value with
      | unavailable other => rwa [hFails.unique (hFailed other hMem)]
      | _ => cases hUnavailable

/-- What can be wrong with the structure of an array, once its two words are read. -/
inductive ArrayFault (host : Host) (object : ObjectRef) (data length : Nat) : Error → Prop where
  | noReference (hData : ∀ address, object.classify data ≠ .reference address) :
      ArrayFault host object data length (.decode object.address (.notReference data))
  | storage {address first second stored : Nat} {e : Error}
      (hData : object.classify data = .reference address)
      (hStorage : (object.arch.readWords address 3).Yields host [first, second, stored])
      (hSlots : (slots.fields (storageAt object address first second)).Fails host e) :
      ArrayFault host object data length e
  | overlong {address first second stored : Nat} {slotFields : Fields}
      (hData : object.classify data = .reference address)
      (hStorage : (object.arch.readWords address 3).Yields host [first, second, stored])
      (hSlots : (slots.fields (storageAt object address first second)).Yields host slotFields)
      (hOver : slotFields.count < length) :
      ArrayFault host object data length
        (.decode object.address (.lengthExceedsStorage length slotFields.count))

section Array

variable {data length : Nat} (hImage : image.Separated)
  (hWords : (object.readWords object.bodyOffset 2).Yields image.host [data, length])

include hImage hWords

theorem ArrayFault.array_fails {e : Error} (h : ArrayFault image.host object data length e) :
    (array.fields object).Fails image.host e := by
  cases h with
  | noReference hData => exact array_fails_of_no_reference hWords hData
  | @storage address first second _ _ hData hStorage hSlots =>
      have hStored := (hImage.yields_frontWords hStorage).2 (.ofWords first second)
      exact array_fails_of_slots_fails hWords hData hStorage hStored hSlots
  | @overlong address first second _ _ hData hStorage hSlots hOver =>
      have hStored := (hImage.yields_frontWords hStorage).2 (.ofWords first second)
      exact (array_of_slots_yields hWords hData hStorage hStored hSlots).2.2 hOver

omit hImage in
/-- A read that fails is no contradiction of the object. -/
theorem exists_storage_of_array_fails {address : Nat} {e : Error} (hStructural : e.isStructural = true)
    (hData : object.classify data = .reference address)
    (h : (array.fields object).Fails image.host e) :
    ∃ first second stored, (object.arch.readWords address 3).Yields image.host [first, second, stored] := by
  have hRead : (object.arch.readWords address 3).Meets Conduct.sound _ 1 :=
    Architecture.meets_readWords (fun _ => rfl)
      ((Nat.mul_le_mul_right 3 object.arch.wordSize_le).trans_lt (by decide)) fun _ => trivial
  rcases fails_of_bind h with hBefore | ⟨found, _, hLocated⟩
  · have hBehind := (readArrayStorage_endsLike hWords hData).fails_iff.mp hBefore
    rcases fails_of_bind hBehind with hFault | ⟨words, hFront, _⟩
    · have hSound : e.isStructural = false := hRead.reports_of_fails hFault
      rw [hStructural] at hSound
      cases hSound
    · obtain ⟨first, second, stored, rfl⟩ := exists_frontWords hFront
      exact ⟨first, second, stored, hFront⟩
  · cases hLocated []

theorem array_fields_fails_iff {e : Error} (hStructural : e.isStructural = true) :
    (array.fields object).Fails image.host e ↔ ArrayFault image.host object data length e := by
  refine ⟨?_, ArrayFault.array_fails hImage hWords⟩
  intro hFails
  by_cases hReference : ∃ address, object.classify data = .reference address
  · obtain ⟨address, hData⟩ := hReference
    obtain ⟨first, second, stored, hStorage⟩ :=
      exists_storage_of_array_fails hWords hStructural hData hFails
    have hStored := (hImage.yields_frontWords hStorage).2 (.ofWords first second)
    have hOrderly := orderly_of_mem_standard Conduct.payloads_allows slots_mem_standard
      (storageAt object address first second)
    rcases yields_or_fails hOrderly.fields.neverStops with ⟨slotFields, hSlots⟩ | ⟨other, hSlots⟩
    · obtain ⟨_, hFits, hOver⟩ := array_of_slots_yields hWords hData hStorage hStored hSlots
      have hShort : slotFields.count < length := by
        by_contra hEnough
        exact (hFits (Nat.not_lt.mp hEnough)).not_fails e hFails
      rw [hFails.unique (hOver hShort)]
      exact .overlong hData hStorage hSlots hShort
    · rw [hFails.unique (array_fails_of_slots_fails hWords hData hStorage hStored hSlots)]
      exact .storage hData hStorage hSlots
  · have hData := not_exists.mp hReference
    rw [hFails.unique (array_fails_of_no_reference hWords hData)]
    exact .noReference hData

end Array

end Decoder

namespace MemoryImage

/-- A symbol with a size that leaves out its own words, and an array of five elements with a storage of
four slots. -/
def contradictory : MemoryImage :=
  ⟨⟨.w64, .little⟩,
    [⟨0x3000, [0x2000, 0, 0x4000, 5].flatMap (Architecture.encodeWord ⟨.w64, .little⟩)⟩,
      ⟨0x4000, [0x2100, 0, 11, 3, 5, 7, 9].flatMap (Architecture.encodeWord ⟨.w64, .little⟩)⟩,
      ⟨0x5000, [0x2200, 0, 8, 0, 99].flatMap (Architecture.encodeWord ⟨.w64, .little⟩)⟩], .empty⟩

def contradictoryArray : ObjectRef := ⟨⟨.w64, .little⟩, 0x3000, .ofWords 0x2000 0⟩

def contradictorySymbol : ObjectRef := ⟨⟨.w64, .little⟩, 0x5000, .ofWords 0x2200 0⟩

theorem contradictory_separated : contradictory.Separated := by
  unfold Separated
  decide +kernel

theorem contradictoryArray_words : (contradictoryArray.readWords contradictoryArray.bodyOffset 2).Yields
    contradictory.host [0x4000, 5] := by
  have hRun : ((contradictoryArray.readWords contradictoryArray.bodyOffset 2).run contradictory.host
      []).outcome = .ok [0x4000, 5] := by decide +kernel
  exact yields_of_outcome hRun

theorem contradictoryArray_storage : (contradictoryArray.arch.readWords 0x4000 3).Yields
    contradictory.host [0x2100, 0, 11] := by
  have hRun : ((contradictoryArray.arch.readWords 0x4000 3).run contradictory.host []).outcome =
      .ok [0x2100, 0, 11] := by decide +kernel
  exact yields_of_outcome hRun

theorem contradictorySymbol_words :
    (contradictorySymbol.readWords contradictorySymbol.bodyOffset 3).Yields
      contradictory.host [8, 0, 99] := by
  have hRun : ((contradictorySymbol.readWords contradictorySymbol.bodyOffset 3).run contradictory.host
      []).outcome = .ok [8, 0, 99] := by decide +kernel
  exact yields_of_outcome hRun

theorem contradictorySymbol_value_fails : (Decoder.symbol.value contradictorySymbol).Fails
    contradictory.host (.decode 0x5000 (.implausibleSize 8)) := by
  have hRun : ((Decoder.symbol.value contradictorySymbol).run contradictory.host []).outcome =
      .error (.error (.decode 0x5000 (.implausibleSize 8))) := by decide +kernel
  exact fails_of_outcome hRun

end MemoryImage

/-- Which contradictions value and fields report over an image. Those of tuples, storages, strings and byte
strings are the same. The fields of a symbol are located in spite of its size, and report it in the place
of the text. The value of an array is its length, whatever its fields fail with. -/
theorem value_and_fields_reject (hImage : image.Separated) (object : ObjectRef) :
    Decoder.slots.RejectsAlike image.host object ∧
    Decoder.string.RejectsAlike image.host object ∧
    Decoder.bytes.RejectsAlike image.host object ∧
    (∀ words, (object.readWords object.bodyOffset 3).Yields image.host words →
      ∃ fields list, (Decoder.symbol.fields object).Yields image.host fields ∧
        fields.all.Yields image.host list ∧
        ∀ e, (Decoder.symbol.value object).Fails image.host e ↔ ⟨"text", .unavailable e⟩ ∈ list) ∧
    ∀ data length, (object.readWords object.bodyOffset 2).Yields image.host [data, length] →
      (Decoder.array.value object).Yields image.host (some ("[" ++ Numeral.decimal length ++ "]")) ∧
      ∀ e : Error, e.isStructural = true → ((Decoder.array.fields object).Fails image.host e ↔
        Decoder.ArrayFault image.host object data length e) := by
  refine ⟨Decoder.slots_rejectsAlike, Decoder.string_rejectsAlike, Decoder.bytes_rejectsAlike, ?_, ?_⟩
  · intro words hWords
    exact Decoder.symbol_value_fails_iff hImage hWords
  · intro data length hWords
    have hLength : [data, length][1]? = some length := rfl
    have hRead := Decoder.yields_readArrayLength hImage hWords hLength
    exact ⟨hRead.bind (.pure _), fun e => Decoder.array_fields_fails_iff hImage hWords⟩

/-- The size of the symbol is reported in the place of its text, and the length of the array only by its
fields. -/
theorem value_and_fields_reject_contradictory :
    MemoryImage.contradictory.Separated ∧
    (∃ fields list,
      (Decoder.symbol.fields MemoryImage.contradictorySymbol).Yields MemoryImage.contradictory.host fields ∧
      fields.all.Yields MemoryImage.contradictory.host list ∧
      ⟨"text", .unavailable (.decode 0x5000 (.implausibleSize 8))⟩ ∈ list) ∧
    (Decoder.array.value MemoryImage.contradictoryArray).Yields MemoryImage.contradictory.host
      (some "[5]") ∧
    ∃ e : Error, e.isStructural = true ∧
      (Decoder.array.fields MemoryImage.contradictoryArray).Fails MemoryImage.contradictory.host e := by
  have hImage := MemoryImage.contradictory_separated
  obtain ⟨_, _, _, hSymbol, _⟩ := value_and_fields_reject hImage MemoryImage.contradictorySymbol
  obtain ⟨_, _, _, _, hArray⟩ := value_and_fields_reject hImage MemoryImage.contradictoryArray
  obtain ⟨fields, list, hFields, hList, hText⟩ := hSymbol _ MemoryImage.contradictorySymbol_words
  obtain ⟨hValue, hRejects⟩ := hArray _ _ MemoryImage.contradictoryArray_words
  have hMem := (hText _).mp MemoryImage.contradictorySymbol_value_fails
  refine ⟨hImage, ⟨fields, list, hFields, hList, hMem⟩, hValue, ?_⟩
  let storage := Decoder.storageAt MemoryImage.contradictoryArray 0x4000 0x2100 0
  have hCount : ((Decoder.readElementCount storage).run MemoryImage.contradictory.host []).outcome =
      .ok 4 := by decide +kernel
  have hSlots : (Decoder.slots.fields storage).Yields MemoryImage.contradictory.host
      (Decoder.elements storage 4) := (yields_of_outcome hCount).bind (.pure _)
  have hData : MemoryImage.contradictoryArray.classify 0x4000 = .reference 0x4000 := by decide
  have hFault := Decoder.ArrayFault.overlong hData MemoryImage.contradictoryArray_storage hSlots
    (by decide : 4 < 5)
  exact ⟨_, rfl, (hRejects _ rfl).mpr hFault⟩

/-- Both objects are rejected on one of their two sides only, though all the words that the checks need
can be read. -/
theorem symbols_and_arrays_reject_apart :
    MemoryImage.contradictory.Separated ∧
    (MemoryImage.contradictorySymbol.readWords MemoryImage.contradictorySymbol.bodyOffset 3).Yields
      MemoryImage.contradictory.host [8, 0, 99] ∧
    (MemoryImage.contradictoryArray.readWords MemoryImage.contradictoryArray.bodyOffset 2).Yields
      MemoryImage.contradictory.host [0x4000, 5] ∧
    (MemoryImage.contradictoryArray.arch.readWords 0x4000 3).Yields
      MemoryImage.contradictory.host [0x2100, 0, 11] ∧
    ¬ Decoder.symbol.RejectsAlike MemoryImage.contradictory.host MemoryImage.contradictorySymbol ∧
    ¬ Decoder.array.RejectsAlike MemoryImage.contradictory.host MemoryImage.contradictoryArray := by
  refine ⟨MemoryImage.contradictory_separated, MemoryImage.contradictorySymbol_words,
    MemoryImage.contradictoryArray_words, MemoryImage.contradictoryArray_storage, ?_, ?_⟩
  · intro hAlike
    have hFails := (hAlike _ rfl).mpr MemoryImage.contradictorySymbol_value_fails
    have hShown : ((Decoder.symbol.fields MemoryImage.contradictorySymbol >>= Fields.all).run
        MemoryImage.contradictory.host []).outcome =
          .ok [⟨"hash", .unsigned 99⟩, ⟨"registry_next", .tagged .null⟩,
            ⟨"text", .unavailable (.decode 0x5000 (.implausibleSize 8))⟩] := by decide +kernel
    obtain ⟨fields, hFields, _⟩ := exists_yields_of_bind (yields_of_outcome hShown)
    exact hFields.not_fails _ hFails
  · intro hAlike
    have hRun : ((Decoder.array.value MemoryImage.contradictoryArray).run
        MemoryImage.contradictory.host []).outcome = .ok (some "[5]") := by decide +kernel
    have hRefused : ((do return (← Decoder.array.fields MemoryImage.contradictoryArray).count :
        Inquiry Nat).run MemoryImage.contradictory.host []).outcome =
          .error (.error (.decode 0x3000 (.lengthExceedsStorage 5 4))) := by decide +kernel
    rcases fails_of_bind (fails_of_outcome hRefused) with hFails | ⟨fields, _, hCounted⟩
    · exact (yields_of_outcome hRun).not_fails _ ((hAlike _ rfl).mp hFails)
    · cases hCounted []

end HeapInspector
