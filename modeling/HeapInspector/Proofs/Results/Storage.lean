import HeapInspector.Proofs.Results.Values
import HeapInspector.Proofs.RoundTrip.Objects

/-! Arrays beside their storage. An array finds its elements by a way of its own: it reads the header and
the count of its storage at once, and never describes it. Over an image this comes to what the two steps
of describing the storage and locating its slots come to. -/
namespace HeapInspector

open Inquiry

variable {image : MemoryImage} {object : ObjectRef} {arch : Architecture}
  {data length address first second stored : Nat}

/-- The three words in front of an object with slots are those of its header and its count. -/
theorem MemoryImage.Separated.yields_frontWords (hImage : image.Separated)
    (h : (arch.readWords address 3).Yields image.host [first, second, stored]) :
    (arch.readHeader address).Yields image.host (.ofWords first second) ∧
      ∀ header, (ObjectRef.readWord ⟨arch, address, header⟩ arch.headerSize).Yields image.host stored := by
  obtain ⟨hServes, hFits⟩ := hImage.serves_row h
  have hWord (word : Nat) (hMem : word ∈ [first, second, stored]) : word % arch.width.modulus = word :=
    Nat.mod_eq_of_lt (hFits word hMem)
  have hStored : image.host.Serves (address + 2 * arch.wordSize) (arch.encodeWord stored) :=
    hServes.word 2 (by simp)
  constructor
  · have hHeader : image.host.Serves address (arch.encodeWord first ++ arch.encodeWord second) := by
      rw [List.flatMap_cons, List.flatMap_cons, ← List.append_assoc] at hServes
      exact hServes.left
    have hRead := Architecture.yields_readHeader hHeader
    rwa [hWord first (by simp), hWord second (by simp)] at hRead
  · intro header
    have hRead : (ObjectRef.readWord ⟨arch, address, header⟩ arch.headerSize).Yields image.host
        (stored % arch.width.modulus) := ObjectRef.yields_readWord hStored
    rwa [hWord stored (by simp)] at hRead

theorem exists_frontWords {host : Host} {words : List Nat}
    (h : (arch.readWords address 3).Yields host words) :
    ∃ first second stored, words = [first, second, stored] := by
  have hReads := (Conduct.payloads_allows ⟨arch, address, .ofWords 0 0⟩).reads
  have hLength := ((Architecture.meets_fewWords hReads (Nat.le_refl 3)).post_of_mayReturn h.mayReturn).1
  match words, hLength with
  | [first, second, stored], _ => exact ⟨first, second, stored, rfl⟩

namespace Decoder

/-- The object that the first words at an address make the storage of an array. -/
abbrev storageAt (object : ObjectRef) (address first second : Nat) : ObjectRef :=
  ⟨object.arch, address, .ofWords first second⟩

/-- What is left of reading the storage once its words are there. -/
def checkLength (object storage : ObjectRef) (stored length : Nat) : Inquiry (ObjectRef × Nat) := do
  let capacity ← elementCount storage stored
  if capacity < length then object.inconsistent (.lengthExceedsStorage length capacity)
  else return (storage, length)

section Length

variable {host : Host} {storage : ObjectRef} {capacity : Nat}
  (hCount : (elementCount storage stored).Yields host capacity)

include hCount

theorem checkLength_yields (hFits : length ≤ capacity) :
    (checkLength object storage stored length).Yields host (storage, length) := by
  apply hCount.bind
  rw [if_neg (Nat.not_lt.mpr hFits)]
  exact .pure _

theorem checkLength_fails (hOver : capacity < length) :
    (checkLength object storage stored length).Fails host
      (.decode object.address (.lengthExceedsStorage length capacity)) := by
  apply hCount.bind_fails
  rw [if_pos hOver]
  exact fun _ => rfl

end Length

section Array

variable {answer : Request → Response}
  (hWords : (object.readWords object.bodyOffset 2).Yields (.still answer) [data, length])

include hWords

theorem array_fails_of_no_reference (hData : ∀ address, object.classify data ≠ .reference address) :
    (array.fields object).Fails (.still answer) (.decode object.address (.notReference data)) := by
  apply Fails.bind
  apply hWords.bind_fails
  dsimp only
  split
  · rename_i address hReference
    exact absurd hReference (hData address)
  · exact fun _ => rfl

variable (hData : object.classify data = .reference address)

include hData

theorem readArrayStorage_endsLike :
    (readArrayStorage object).EndsLike (.still answer) (do
      match ← object.arch.readWords address 3 with
      | first :: second :: stored :: _ =>
          checkLength object (storageAt object address first second) stored length
      | _ => Inquiry.defect .indexOutOfBounds) := by
  apply (hWords.bind_endsLike _).trans
  dsimp only
  rw [hData]
  exact fun _ => rfl

theorem exists_words_of_array_yields {fields : Fields}
    (h : (array.fields object).Yields (.still answer) fields) :
    ∃ words, (object.arch.readWords address 3).Yields (.still answer) words := by
  obtain ⟨found, hFound, _⟩ := exists_yields_of_bind h
  have hBehind := (readArrayStorage_endsLike hWords hData).yields_iff.mp hFound
  obtain ⟨words, hRead, _⟩ := exists_yields_of_bind hBehind
  exact ⟨words, hRead⟩

/-- Once the words of the storage are read, the fields of the array hang on the count. -/
theorem array_fields_endsLike
    (hStorage : (object.arch.readWords address 3).Yields (.still answer) [first, second, stored]) :
    (array.fields object).EndsLike (.still answer) (do
      let (storage, length) ←
        checkLength object (storageAt object address first second) stored length
      return elements storage length) :=
  ((readArrayStorage_endsLike hWords hData).trans (hStorage.bind_endsLike _)).bind _

variable
  (hStorage : (object.arch.readWords address 3).Yields (.still answer) [first, second, stored])
  (hStored : ((storageAt object address first second).readWord object.arch.headerSize).Yields
    (.still answer) stored)

include hStorage hStored

/-- An array reports what its storage would report of its count. -/
theorem array_fails_of_slots_fails {e : Error}
    (h : (slots.fields (storageAt object address first second)).Fails (.still answer) e) :
    (array.fields object).Fails (.still answer) e := by
  rw [(array_fields_endsLike hWords hData hStorage).fails_iff]
  rcases fails_of_bind h with hCount | ⟨capacity, _, hDone⟩
  · have hCounted := (hStored.bind_endsLike _).fails_iff.mp hCount
    exact Fails.bind (Fails.bind hCounted)
  · cases hDone []

/-- The array stands and falls with the number of slots, once its storage has any. -/
theorem array_of_slots_yields {slotFields : Fields}
    (h : (slots.fields (storageAt object address first second)).Yields (.still answer) slotFields) :
    slotFields = elements (storageAt object address first second) slotFields.count ∧
    (length ≤ slotFields.count → (array.fields object).Yields (.still answer)
      (elements (storageAt object address first second) length)) ∧
    (slotFields.count < length → (array.fields object).Fails (.still answer)
      (.decode object.address (.lengthExceedsStorage length slotFields.count))) := by
  obtain ⟨capacity, hCount, hElements⟩ := exists_yields_of_bind h
  rw [← (Yields.pure _).unique hElements]
  have hCounted := (hStored.bind_endsLike _).yields_iff.mp hCount
  have hArray := array_fields_endsLike hWords hData hStorage
  refine ⟨rfl, ?_, ?_⟩
  · intro hFits
    exact hArray.yields_iff.mpr ((checkLength_yields hCounted hFits).bind (.pure _))
  · intro hOver
    exact hArray.fails_iff.mpr (checkLength_fails hCounted hOver).bind

end Array

/-- The front of the elements is what there is when fewer of them are taken. -/
theorem elements_show_take {host : Host} {storage : ObjectRef} {length capacity : Nat}
    {list : List Field} (h : (elements storage capacity).Show host list) (hFits : length ≤ capacity) :
    (elements storage length).Show host (list.take length) := by
  have hCount : capacity = list.length := h.count
  constructor
  · rw [List.length_take, ← hCount, Nat.min_eq_left hFits]
    rfl
  · intro index hIndex
    rw [List.length_take] at hIndex
    rw [List.getElem_take]
    exact h.field index (by omega)

end Decoder

namespace Introspector

/-- A reference to an aligned header that can be read is described as the object there. -/
theorem describe_of_header {i : Introspector} {host : Host} {header : ObjectHeader}
    (hData : Tagged.classify i.arch.width data = .reference address) (hAligned : address / 2 % 2 = 0)
    (hHeader : (i.arch.readHeader address).Yields host header) :
    ∃ d : ObjectDescription, (i.describe data).Yields host (.object d) ∧
      d.object = ⟨i.arch, address, header⟩ := by
  have hObject : ∃ d : ObjectDescription, (i.describeObject address).Yields host d ∧
      d.object = ⟨i.arch, address, header⟩ := by
    rw [describeObject, if_neg (by omega)]
    exact ⟨_, hHeader.bind (.pure _), rfl⟩
  obtain ⟨d, hDescribed, hSame⟩ := hObject
  refine ⟨d, ?_, hSame⟩
  rw [describe, hData]
  exact hDescribed.bind (.pure _)

end Introspector

/-- Where an array finds its storage, the storage is described as an object, and its count is read. -/
theorem MemoryImage.Separated.describes_storage (hImage : image.Separated) (registry : Registry)
    (hArch : object.arch = image.arch) (hData : object.classify data = .reference address)
    (hAligned : address / 2 % 2 = 0) {words : List Nat}
    (h : (image.arch.readWords address 3).Yields image.host words) :
    ∃ first second stored, (object.arch.readWords address 3).Yields image.host [first, second, stored] ∧
      ((Decoder.storageAt object address first second).readWord object.arch.headerSize).Yields
        image.host stored ∧
      ∃ d : ObjectDescription,
        ((image.introspector registry).describe data).Yields image.host (.object d) ∧
          d.object = Decoder.storageAt object address first second := by
  rw [← hArch] at h
  obtain ⟨first, second, stored, rfl⟩ := exists_frontWords h
  obtain ⟨hHeader, hStored⟩ := hImage.yields_frontWords h
  unfold ObjectRef.classify at hData
  rw [hArch] at hHeader hData
  obtain ⟨d, hDescribe, hSame⟩ :=
    Introspector.describe_of_header (i := image.introspector registry) hData hAligned hHeader
  refine ⟨first, second, stored, h, hStored _, d, hDescribe, ?_⟩
  rw [hSame, Decoder.storageAt, hArch]
  rfl

/-- An array shows the front of its storage. Over an image, where the data word of an array is a reference
that can be described: if the fields of the array are located, the word is described as an object with no
fewer slots, and the fields are the first of them, by name and by value, errors included. If the storage
has slots, the array is refused as too long for them just when it is. -/
theorem array_shows_front_of_storage (hImage : image.Separated) (registry : Registry)
    (hArch : object.arch = image.arch)
    (hWords : (object.readWords object.bodyOffset 2).Yields image.host [data, length])
    (hData : object.classify data = .reference address) (hAligned : address / 2 % 2 = 0) :
    (∀ fields, (Decoder.array.fields object).Yields image.host fields →
      fields.count = length ∧
      ∃ d slots list, ((image.introspector registry).describe data).Yields image.host (.object d) ∧
        (Decoder.slots.fields d.object).Yields image.host slots ∧ length ≤ slots.count ∧
        slots.Show image.host list ∧ fields.Show image.host (list.take length)) ∧
    ∀ words, (image.arch.readWords address 3).Yields image.host words →
      ∃ d, ((image.introspector registry).describe data).Yields image.host (.object d) ∧
        ∀ slots, (Decoder.slots.fields d.object).Yields image.host slots →
          ((Decoder.array.fields object).Fails image.host
            (.decode object.address (.lengthExceedsStorage length slots.count)) ↔
              slots.count < length) ∧
          (length ≤ slots.count → ∃ fields, (Decoder.array.fields object).Yields image.host fields) := by
  have hDescribes := fun words (h : (image.arch.readWords address 3).Yields image.host words) =>
    hImage.describes_storage registry hArch hData hAligned h
  constructor
  · intro fields hFields
    obtain ⟨words, hRead⟩ := Decoder.exists_words_of_array_yields hWords hData hFields
    rw [hArch] at hRead
    obtain ⟨first, second, stored, hStorage, hStored, d, hDescribe, hSame⟩ := hDescribes words hRead
    have hOrderly := Decoder.orderly_of_mem_standard Conduct.payloads_allows
      Decoder.slots_mem_standard d.object
    rcases yields_or_fails hOrderly.fields.neverStops with ⟨slots, hSlots⟩ | ⟨e, hFails⟩
    · obtain ⟨list, hShow⟩ := hOrderly.exists_show hSlots
      have hShown := hSlots
      rw [hSame] at hShown
      obtain ⟨hElements, hFits, hOver⟩ :=
        Decoder.array_of_slots_yields hWords hData hStorage hStored hShown
      have hLength : length ≤ slots.count := by
        by_contra hShort
        exact hFields.not_fails _ (hOver (Nat.not_le.mp hShort))
      rw [hFields.unique (hFits hLength)]
      refine ⟨rfl, d, slots, list, hDescribe, hSlots, hLength, hShow, ?_⟩
      rw [hElements] at hShow
      exact Decoder.elements_show_take hShow hLength
    · rw [hSame] at hFails
      have hArray := Decoder.array_fails_of_slots_fails hWords hData hStorage hStored hFails
      exact absurd hArray (hFields.not_fails e)
  · intro words hRead
    obtain ⟨first, second, stored, hStorage, hStored, d, hDescribe, hSame⟩ := hDescribes words hRead
    refine ⟨d, hDescribe, ?_⟩
    intro slots hSlots
    rw [hSame] at hSlots
    obtain ⟨_, hFits, hOver⟩ := Decoder.array_of_slots_yields hWords hData hStorage hStored hSlots
    refine ⟨⟨?_, hOver⟩, fun h => ⟨_, hFits h⟩⟩
    intro hFails
    by_contra hShort
    exact (hFits (Nat.not_lt.mp hShort)).not_fails _ hFails

/-- The storage has two slots, of which the array shows the first. -/
theorem array_shows_front_of_storage_spare :
    let array : ObjectRef := ⟨⟨.w64, .little⟩, 0x3000, .ofWords 0x2000 0⟩
    let host := MemoryImage.spareStorage.host
    MemoryImage.spareStorage.Separated ∧
    (array.readWords array.bodyOffset 2).Yields host [0x4000, 1] ∧
    array.classify 0x4000 = .reference 0x4000 ∧
    ∃ fields d slots list, (Decoder.array.fields array).Yields host fields ∧
      ((MemoryImage.spareStorage.introspector .builtin).describe 0x4000).Yields host (.object d) ∧
      (Decoder.slots.fields d.object).Yields host slots ∧ 1 ≤ slots.count ∧
      slots.Show host list ∧ fields.Show host (list.take 1) := by
  intro array host
  have hImage := MemoryImage.spareStorage_separated
  have hRead : ((array.readWords array.bodyOffset 2).run host []).outcome = .ok [0x4000, 1] := by
    decide +kernel
  have hWords : (array.readWords array.bodyOffset 2).Yields host [0x4000, 1] := yields_of_outcome hRead
  have hElements : ((Decoder.array.fields array >>= Fields.all).run host []).outcome =
      .ok [⟨"[0]", .tagged (.smallInt 7)⟩] := by decide +kernel
  obtain ⟨fields, hFields, _⟩ := exists_yields_of_bind (yields_of_outcome hElements)
  have hData : array.classify 0x4000 = .reference 0x4000 := by decide
  obtain ⟨hFront, _⟩ := array_shows_front_of_storage hImage .builtin rfl hWords hData (by decide)
  obtain ⟨_, d, slots, list, hFound⟩ := hFront fields hFields
  exact ⟨hImage, hWords, hData, fields, d, slots, list, hFields, hFound⟩

end HeapInspector
