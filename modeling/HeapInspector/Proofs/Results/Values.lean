import HeapInspector.Proofs.Image.Parts

/-! Short values beside fields. A decoder reads an object in two ways that share little: the value asks
for one word where the fields ask for a row of them, and goes on to the payload by itself. Over an image
both hear the same words, so that the value tells what the field of the payload tells. -/
namespace HeapInspector

open Inquiry

variable {α β : Type} {answer : Request → Response} {object : ObjectRef} {name : String}

namespace Decoder

variable {decoder : Decoder}

/-- Once the fields are located, they come to a list, and the value is their number in brackets. -/
def TellsCount (host : Host) (object : ObjectRef) (decoder : Decoder) : Prop :=
  ∀ fields, (decoder.fields object).Yields host fields →
    ∃ list, fields.all.Yields host list ∧
      (decoder.value object).Yields host (some ("[" ++ Numeral.decimal list.length ++ "]"))

/-- The value tells what the field with the name tells: the text of what the field holds, and the error
of a field that cannot be read. -/
structure Retells (host : Host) (object : ObjectRef) (decoder : Decoder) (name : String)
    (list : List Field) : Prop where
  found : ∃ value, ⟨name, value⟩ ∈ list
  told : ∀ value, ⟨name, value⟩ ∈ list → value.isUnavailable = false →
    (decoder.value object).Yields host (some value.display)
  failed : ∀ e, ⟨name, .unavailable e⟩ ∈ list → (decoder.value object).Fails host e

/-- Once the fields are located, they come to a list that the value retells. -/
def TellsField (host : Host) (object : ObjectRef) (name : String) (decoder : Decoder) : Prop :=
  ∀ fields, (decoder.fields object).Yields host fields →
    ∃ list, fields.all.Yields host list ∧ decoder.Retells host object name list

theorem tellsCount_of_count (hMem : decoder ∈ standard)
    (hCount : ∀ fields, (decoder.fields object).Yields (.still answer) fields →
      (decoder.value object).Yields (.still answer) (some (elementName fields.count))) :
    decoder.TellsCount (.still answer) object := by
  intro fields hFields
  have hOrderly := orderly_of_mem_standard Conduct.payloads_allows hMem object
  obtain ⟨list, hShow⟩ := hOrderly.exists_show hFields
  refine ⟨list, hShow.all, ?_⟩
  rw [← hShow.count]
  exact hCount fields hFields

theorem slots_tellsCount : slots.TellsCount (.still answer) object := by
  apply tellsCount_of_count slots_mem_standard
  intro fields hFields
  obtain ⟨length, hLength, hElements⟩ := exists_yields_of_bind hFields
  rw [← (Yields.pure _).unique hElements]
  exact hLength.bind (.pure _)

/-- The second word of an array is the number of elements that are found in the storage. -/
theorem exists_words_of_readArrayStorage {found : ObjectRef × Nat}
    (h : (readArrayStorage object).Yields (.still answer) found) :
    ∃ words, (object.readWords object.bodyOffset 2).Yields (.still answer) words ∧
      words[1]? = some found.2 := by
  obtain ⟨words, hWords, hBehind⟩ := exists_yields_of_bind h
  refine ⟨words, hWords, ?_⟩
  split at hBehind
  · split at hBehind
    · obtain ⟨stored, _, hStorage⟩ := exists_yields_of_bind hBehind
      split at hStorage
      · obtain ⟨capacity, _, hFits⟩ := exists_yields_of_bind hStorage
        split at hFits
        · exact absurd hFits not_yields_fail
        · rw [← (Yields.pure _).unique hFits]
          rfl
      · exact absurd hStorage not_yields_fail
    · exact absurd hBehind not_yields_fail
  · exact absurd hBehind not_yields_fail

variable {image : MemoryImage}

/-- The length is read on its own, where the row of both words is read. -/
theorem yields_readArrayLength (hImage : image.Separated) {words : List Nat} {length : Nat}
    (hWords : (object.readWords object.bodyOffset 2).Yields image.host words)
    (hLength : words[1]? = some length) : (readArrayLength object).Yields image.host length := by
  have hFits : object.bodyOffset + 1 * object.wordSize < machineBound := by
    have hHeader : object.bodyOffset = 2 * object.wordSize := rfl
    have hWord := object.wordSize_le
    unfold machineBound
    omega
  have hRead := ObjectRef.yields_readWord_of_readWords hImage hWords hLength
  exact (ObjectRef.yields_bodyWordOffset hFits).bind hRead

theorem array_tellsCount (hImage : image.Separated) : array.TellsCount image.host object := by
  apply tellsCount_of_count (by simp [standard, Registry.builtin])
  intro fields hFields
  obtain ⟨found, hFound, hElements⟩ := exists_yields_of_bind hFields
  obtain ⟨words, hWords, hLength⟩ := exists_words_of_readArrayStorage hFound
  rw [← (Yields.pure _).unique hElements]
  exact (yields_readArrayLength hImage hWords hLength).bind (.pure _)

/-- The form that a decoder with a payload has. The value goes through a first part of its own and on
to the payload; the last field goes on to the payload from what locating the fields has found. -/
theorem retells_of_payload (payload : α → Inquiry β) (wrap : β → FieldValue) (front : List Field)
    {first : Inquiry α} {found : α} {fields : Fields}
    (hValue : decoder.value object = do return some (wrap (← payload (← first))).display)
    (hWrap : ∀ result, (wrap result).isUnavailable = false)
    (hFirst : first.Yields (.still answer) found) (hNever : (payload found).NeverStops)
    (hNames : ∀ field ∈ front, field.name ≠ name)
    (hShow : ∀ value, (Fields.one name (do return wrap (← payload found))).Show (.still answer)
      [⟨name, value⟩] → fields.Show (.still answer) (front ++ [⟨name, value⟩])) :
    ∃ list, fields.all.Yields (.still answer) list ∧
      decoder.Retells (.still answer) object name list := by
  have hOnly (value other : FieldValue) (hMem : ⟨name, other⟩ ∈ front ++ [⟨name, value⟩]) :
      other = value := by
    rcases List.mem_append.mp hMem with hBefore | hLast
    · exact absurd rfl (hNames _ hBefore)
    · exact congrArg Field.value (List.mem_singleton.mp hLast)
  rcases yields_or_fails hNever with ⟨result, hResult⟩ | ⟨e, hFails⟩
  · refine ⟨_, (hShow (wrap result) (Fields.show_one (hResult.bind (.pure _)))).all, ?_, ?_, ?_⟩
    · exact ⟨wrap result, by simp⟩
    · intro value hMem _
      rw [hOnly _ _ hMem, hValue]
      exact hFirst.bind (hResult.bind (.pure _))
    · intro e hMem
      have hUnavailable := hWrap result
      rw [← hOnly _ _ hMem] at hUnavailable
      cases hUnavailable
  · refine ⟨_, (hShow (.unavailable e) (Fields.show_one_of_fails hFails.bind)).all, ?_, ?_, ?_⟩
    · exact ⟨.unavailable e, by simp⟩
    · intro value hMem hAvailable
      rw [hOnly _ _ hMem] at hAvailable
      cases hAvailable
    · intro other hMem
      rw [hValue, FieldValue.unavailable.inj (hOnly _ _ hMem)]
      exact hFirst.bind_fails hFails.bind

/-- A payload that is the only field. -/
theorem tellsField_of_one {payload : Inquiry β} (wrap : β → FieldValue)
    (hValue : decoder.value object = do return some (wrap (← payload)).display)
    (hFields : decoder.fields object = return Fields.one name (do return wrap (← payload)))
    (hWrap : ∀ result, (wrap result).isUnavailable = false) (hNever : payload.NeverStops) :
    decoder.TellsField (.still answer) object name := by
  intro fields hYields
  rw [hFields] at hYields
  rw [← (Yields.pure _).unique hYields]
  exact retells_of_payload (fun _ : Unit => payload) wrap [] hValue hWrap (.pure ()) hNever (by simp)
    fun _ => id

theorem bool_tellsField : bool.TellsField (.still answer) object "value" := by
  have hNever := (meets_readBool (Conduct.payloads_allows object)).neverStops
  exact tellsField_of_one .bool rfl rfl (fun _ => rfl) hNever

theorem float_tellsField : float.TellsField (.still answer) object "value" := by
  have hNever := (meets_readFloat (Conduct.payloads_allows object)).neverStops
  exact tellsField_of_one .float rfl rfl (fun _ => rfl) hNever

theorem bytes_tellsField : bytes.TellsField (.still answer) object "data" := by
  intro fields hFields
  obtain ⟨size, hSize, hParts⟩ := exists_yields_of_bind hFields
  rw [← (Yields.pure _).unique hParts]
  have hAllows := Conduct.payloads_allows object
  have hLe := (meets_readBytesLayout hAllows).post_of_mayReturn hSize.mayReturn
  exact retells_of_payload (readData object) .bytes [⟨"size", .unsigned size⟩] rfl (fun _ => rfl)
    hSize (meets_readData hAllows hLe).neverStops (by simp) fun _ => Fields.show_known.append

theorem string_tellsField : string.TellsField (.still answer) object "text" := by
  intro fields hFields
  obtain ⟨layout, hLayout, hParts⟩ := exists_yields_of_bind hFields
  rw [← (Yields.pure _).unique hParts]
  have hAllows := Conduct.payloads_allows object
  have hPost := (meets_readTextLayout hAllows).post_of_mayReturn hLayout.mayReturn
  let payload (layout : PackedLength × Nat) := readText object layout.1 layout.2
  exact retells_of_payload payload .text
    [⟨"length", .unsigned layout.1.count⟩, ⟨"element_size", .unsigned layout.1.elementSize⟩] rfl
    (fun _ => rfl) hLayout (meets_readText hAllows hPost.1 hPost.2).neverStops (by simp)
    fun _ => (Fields.show_known.append Fields.show_known).append

theorem symbol_tellsField (hImage : image.Separated) :
    symbol.TellsField image.host object "text" := by
  intro fields hFields
  obtain ⟨words, hWords, hParts⟩ := exists_yields_of_bind hFields
  split at hParts
  · rename_i stored next hash others
    rw [← (Yields.pure _).unique hParts]
    have hStored : (stored :: next :: hash :: others)[0]? = some stored := rfl
    have hFirst := ObjectRef.yields_readWord_of_readWords hImage hWords hStored
    rw [Nat.zero_mul, Nat.add_zero] at hFirst
    have hNever : (readSymbolText object stored).NeverStops :=
      (meets_readSymbolText (Conduct.payloads_allows object)).neverStops
    exact retells_of_payload (readSymbolText object) .text
      [⟨"hash", .unsigned hash⟩, ⟨"registry_next", .tagged (object.classify next)⟩] rfl
      (fun _ => rfl) hFirst hNever (by simp)
      fun _ => (Fields.show_known.append Fields.show_known).append
  · exact absurd hParts not_yields_fail

end Decoder

/-- Value and fields tell the same. Over an image, whenever the fields of an object can be located, the
value of an array or a tuple is the number of its fields in brackets, and the value of an object with a
payload is the text of the field that holds the payload, or fails with the error that stands there. -/
theorem values_retell_fields {image : MemoryImage} (hImage : image.Separated) (object : ObjectRef)
    (typeName : String) :
    ((TypeKey.ofName typeName).text ∈ ["array", "array_slots", "tuple"] →
      (Registry.builtin.lookup (some typeName)).TellsCount image.host object) ∧
    ((TypeKey.ofName typeName).text ∈ ["symbol", "string"] →
      (Registry.builtin.lookup (some typeName)).TellsField image.host object "text") ∧
    ∀ entry ∈ [("bytes", "data"), ("bool", "value"), ("float", "value")],
      (TypeKey.ofName typeName).text = entry.1 →
        (Registry.builtin.lookup (some typeName)).TellsField image.host object entry.2 := by
  have hLookup : Registry.builtin.lookup (some typeName) =
      (Registry.builtin.entries.lookup (TypeKey.ofName typeName)).getD Decoder.byLayout := rfl
  rw [hLookup]
  obtain ⟨key⟩ := TypeKey.ofName typeName
  simp only [List.mem_cons, List.not_mem_nil, or_false]
  refine ⟨?_, ?_, ?_⟩
  · rintro (rfl | rfl | rfl)
    · exact Decoder.array_tellsCount hImage
    · exact Decoder.slots_tellsCount
    · exact Decoder.slots_tellsCount
  · rintro (rfl | rfl)
    · exact Decoder.symbol_tellsField hImage
    · exact Decoder.string_tellsField
  · rintro entry (rfl | rfl | rfl) rfl
    · exact Decoder.bytes_tellsField
    · exact Decoder.bool_tellsField
    · exact Decoder.float_tellsField

/-- A symbol and an array whose storage is longer than itself. -/
def MemoryImage.spareStorage : MemoryImage :=
  ⟨⟨.w64, .little⟩,
    [⟨0x3000, [0x2000, 0, 0x4000, 1].flatMap (Architecture.encodeWord ⟨.w64, .little⟩)⟩,
      ⟨0x4000, [0x2100, 0, 7, 15, 0x3000].flatMap (Architecture.encodeWord ⟨.w64, .little⟩)⟩,
      ⟨0x5000, [0x2200, 0, 27, 0, 99].flatMap (Architecture.encodeWord ⟨.w64, .little⟩) ++
        [0x61, 0xff, 0]⟩], .empty⟩

theorem MemoryImage.spareStorage_separated : spareStorage.Separated := by
  unfold Separated
  decide +kernel

/-- The array shows one of the two slots of its storage, and its value says one. The text of the symbol
is not valid, and this is what becomes of the value as well. -/
theorem values_retell_fields_spare_storage :
    let array : ObjectRef := ⟨⟨.w64, .little⟩, 0x3000, .ofWords 0x2000 0⟩
    let symbol : ObjectRef := ⟨⟨.w64, .little⟩, 0x5000, .ofWords 0x2200 0⟩
    MemoryImage.spareStorage.Separated ∧
    (TypeKey.ofName "type_Array").text = "array" ∧ (TypeKey.ofName "Symbol").text = "symbol" ∧
    (Decoder.array.value array).Yields MemoryImage.spareStorage.host (some "[1]") ∧
    (Decoder.symbol.value symbol).Fails MemoryImage.spareStorage.host
      (.decode 0x5000 .invalidUtf8) := by
  intro array symbol
  have hImage := MemoryImage.spareStorage_separated
  have hArray : (TypeKey.ofName "type_Array").text = "array" := by decide +kernel
  have hSymbol : (TypeKey.ofName "Symbol").text = "symbol" := by decide +kernel
  have hElements : ((Decoder.array.fields array >>= Fields.all).run MemoryImage.spareStorage.host
      []).outcome = .ok [⟨"[0]", .tagged (.smallInt 7)⟩] := by decide +kernel
  have hText : ((Decoder.symbol.fields symbol >>= Fields.all).run MemoryImage.spareStorage.host
      []).outcome = .ok [⟨"hash", .unsigned 99⟩, ⟨"registry_next", .tagged .null⟩,
        ⟨"text", .unavailable (.decode 0x5000 .invalidUtf8)⟩] := by decide +kernel
  refine ⟨hImage, hArray, hSymbol, ?_, ?_⟩
  · obtain ⟨fields, hFields, hAll⟩ := exists_yields_of_bind (yields_of_outcome hElements)
    obtain ⟨list, hList, hValue⟩ := (values_retell_fields hImage array "type_Array").1
      (by simp [hArray]) fields hFields
    rwa [hList.unique hAll] at hValue
  · obtain ⟨fields, hFields, hAll⟩ := exists_yields_of_bind (yields_of_outcome hText)
    obtain ⟨list, hList, hRetells⟩ := (values_retell_fields hImage symbol "Symbol").2.1
      (by simp [hSymbol]) fields hFields
    apply hRetells.failed
    simp [hList.unique hAll]

end HeapInspector
