import HeapInspector.Proofs.Conduct.Introspection
import HeapInspector.Proofs.RoundTrip.BuiltIn

/-! Arrays, whose elements lie in another object. They are found through the array's data word, and
nothing is asked of the address in it except that the storage is there. Describing asks for more: the
same word is refused there if it is not aligned. -/
namespace HeapInspector

open Inquiry

variable {host : Host} {object : ObjectRef} {data storage : Nat} {items spare : List Nat}

/-- The host serves an array and its storage: behind the header of the array the data word and the
length, and at the address that the data word references another header, the count of the slots, the
elements and slots to spare. -/
structure Host.ServesArray (host : Host) (object : ObjectRef) (data storage : Nat)
    (items spare : List Nat) : Prop where
  data_reference : object.classify data = .reference storage
  array : object.Serves host object.bodyOffset ([data, items.length].flatMap object.arch.encodeWord)
  storage : ∃ first second count,
    encodeSmallInt? object.arch.width ((items ++ spare).length + 1) = some count ∧
    host.Serves storage ((first :: second :: count :: (items ++ spare)).flatMap object.arch.encodeWord)
  size_le : (items ++ spare).length * object.wordSize ≤ maxPayloadSize

namespace Decoder

/-- A length that a payload can have is a word of either width. -/
theorem length_mod_of_size {length : Nat} (h : length * object.wordSize ≤ maxPayloadSize) :
    length % object.arch.width.modulus = length := by
  have hLength : length ≤ length * object.wordSize :=
    Nat.le_mul_of_pos_right length object.arch.wordSize_pos
  have hModulus : maxPayloadSize < object.arch.width.modulus := by
    cases object.arch.width <;> decide
  exact Nat.mod_eq_of_lt (by omega)

/-- The storage and the length are the ones that are served. -/
theorem yields_readArrayStorage (h : host.ServesArray object data storage items spare) :
    ∃ header, (readArrayStorage object).Yields host (⟨object.arch, storage, header⟩, items.length) := by
  obtain ⟨first, second, count, hCount, hStorage⟩ := h.storage
  obtain ⟨_, _, hCountFits⟩ := decodeSmallInt_of_encode hCount
  have hSpare : items.length ≤ (items ++ spare).length := by simp
  have hLength : items.length * object.wordSize ≤ maxPayloadSize :=
    (Nat.mul_le_mul_right _ hSpare).trans h.size_le
  have hArray := ObjectRef.yields_readWords h.array rfl
  have hReference : object.classify (data % object.arch.width.modulus) = .reference storage := by
    rw [ObjectRef.classify, Tagged.classify_mod]
    exact h.data_reference
  have hFront : host.Serves storage ([first, second, count].flatMap object.arch.encodeWord) := by
    have hWhole : host.Serves storage ([first, second, count].flatMap object.arch.encodeWord ++
        (items ++ spare).flatMap object.arch.encodeWord) := by
      rw [← List.flatMap_append]
      exact hStorage
    exact hWhole.left
  have hElements : ∀ header, (elementCount ⟨object.arch, storage, header⟩ count).Yields host
      (items ++ spare).length := fun _ => yields_elementCount hCount h.size_le
  refine ⟨.ofWords (first % object.arch.width.modulus) (second % object.arch.width.modulus), ?_⟩
  unfold readArrayStorage
  apply hArray.bind
  simp only [List.map_cons, List.map_nil, hReference, length_mod_of_size hLength]
  apply (Architecture.yields_readWords hFront rfl).bind
  simp only [List.map_cons, List.map_nil, Nat.mod_eq_of_lt hCountFits]
  apply (hElements _).bind
  rw [if_neg (by omega)]
  exact .pure _

/-- An array shows as many slots of its storage as its own length says, wherever the storage is. -/
theorem array_shows (h : host.ServesArray object data storage items spare) :
    array.Shows host object ((Content.slots items).fields object.arch.width) := by
  obtain ⟨header, hRead⟩ := yields_readArrayStorage h
  obtain ⟨first, second, count, _, hStorage⟩ := h.storage
  have hSlots : host.Serves (storage + object.bodyOffset)
      ((count :: items).flatMap object.arch.encodeWord) := by
    have hWhole : host.Serves storage ([first, second].flatMap object.arch.encodeWord ++
        ((count :: items).flatMap object.arch.encodeWord ++
          spare.flatMap object.arch.encodeWord)) := by
      rw [← List.flatMap_append, ← List.flatMap_append]
      exact hStorage
    have hBehind := hWhole.right
    rw [object.arch.flatMap_encodeWord_length] at hBehind
    exact hBehind.left
  exact ⟨elements ⟨object.arch, storage, header⟩ items.length, hRead.bind (.pure _),
    elements_show hSlots⟩

end Decoder

/-- Whether a reference is aligned is asked where a word is described, and not where an array follows
its data word. A word that references an address with bit 1 set is refused by the one before anything
is read, and the other shows what lies at this address. -/
theorem describe_refuses_what_arrays_follow {word address : Nat}
    (hClass : object.classify word = .reference address) (hMisaligned : address / 2 % 2 = 1) :
    (∀ typeName registry host past,
      (Introspector.describe ⟨object.arch, typeName, registry⟩ word).run host past =
          ⟨.error (.error (.decode address .misalignedReference)), []⟩ ∧
        (Introspector.describeTagged ⟨object.arch, typeName, registry⟩ (.reference address)).run
            host past =
          ⟨.error (.error (.decode address .misalignedReference)), []⟩) ∧
    ∀ host items spare, Host.ServesArray host object word address items spare →
      Decoder.array.Shows host object ((Content.slots items).fields object.arch.width) := by
  constructor
  · intro typeName registry host past
    have hTagged : (Introspector.describeTagged ⟨object.arch, typeName, registry⟩
        (.reference address)).run host past =
          ⟨.error (.error (.decode address .misalignedReference)), []⟩ := by
      rw [Introspector.describeTagged, Introspector.describeObject_of_misaligned hMisaligned]
      rfl
    refine ⟨?_, hTagged⟩
    rw [Introspector.describe, ← hTagged]
    exact congrArg (fun tagged => (Introspector.describeTagged ⟨object.arch, typeName, registry⟩
      tagged).run host past) hClass
  · intro host items spare hServes
    exact Decoder.array_shows hServes

namespace MemoryImage

/-- An array of one element whose storage has been shifted by half a word. -/
def shiftedStorage : MemoryImage :=
  ⟨⟨.w64, .little⟩,
    [⟨0x3000, [0x2000, 0, 0x4002, 1].flatMap (Architecture.encodeWord ⟨.w64, .little⟩)⟩,
      ⟨0x4002, [0x2100, 0, 5, 15].flatMap (Architecture.encodeWord ⟨.w64, .little⟩)⟩], .empty⟩

theorem shiftedStorage_servesArray :
    shiftedStorage.host.ServesArray ⟨⟨.w64, .little⟩, 0x3000, .ofWords 0x2000 0⟩ 0x4002 0x4002 [15]
      [] := by
  have hSeparated : shiftedStorage.Separated := List.pairwise_pair.mpr rfl
  refine ⟨rfl, ?_, ⟨0x2100, 0, 5, rfl, ?_⟩, by decide⟩
  · have hBody : Segment.Holds ⟨0x3000, _⟩ 0x3010
        ([0x4002, 1].flatMap (Architecture.encodeWord ⟨.w64, .little⟩)) :=
      ⟨[0x2000, 0].flatMap (Architecture.encodeWord ⟨.w64, .little⟩), [], rfl, rfl⟩
    exact hSeparated.serves List.mem_cons_self hBody (by decide)
  · have hWhole : Segment.Holds ⟨0x4002, _⟩ 0x4002
        ([0x2100, 0, 5, 15].flatMap (Architecture.encodeWord ⟨.w64, .little⟩)) := ⟨[], [], rfl, rfl⟩
    exact hSeparated.serves (List.mem_cons_of_mem _ List.mem_cons_self) hWhole (by decide)

end MemoryImage

/-- The address of the storage cannot be described, and the array shows the element there. -/
theorem describe_refuses_what_arrays_follow_shifted :
    ((Introspector.describe ⟨⟨.w64, .little⟩, fun _ => none, .builtin⟩ 0x4002).run
        MemoryImage.shiftedStorage.host []).outcome =
      .error (.error (.decode 0x4002 .misalignedReference)) ∧
    Decoder.array.Shows MemoryImage.shiftedStorage.host
      ⟨⟨.w64, .little⟩, 0x3000, .ofWords 0x2000 0⟩ ((Content.slots [15]).fields .w64) := by
  have hClass : ObjectRef.classify ⟨⟨.w64, .little⟩, 0x3000, .ofWords 0x2000 0⟩ 0x4002 =
      .reference 0x4002 := rfl
  have hBoth := describe_refuses_what_arrays_follow hClass (by decide)
  constructor
  · rw [(hBoth.1 (fun _ => none) .builtin MemoryImage.shiftedStorage.host []).1]
  · exact hBoth.2 _ _ _ MemoryImage.shiftedStorage_servesArray

/-- The storage is asked for at its misaligned address, right after the array's own words, and what is
there is taken for the fields. -/
theorem misaligned_storage_is_read :
    0x4002 / 2 % 2 = 1 ∧
    ((Decoder.array.fields ⟨⟨.w64, .little⟩, 0x3000, .ofWords 0x2000 0⟩).run
        MemoryImage.shiftedStorage.host []).requests = [⟨0x3010, 16⟩, ⟨0x4002, 24⟩] ∧
    ∃ fields, ((Decoder.array.fields ⟨⟨.w64, .little⟩, 0x3000, .ofWords 0x2000 0⟩).run
        MemoryImage.shiftedStorage.host []).outcome = .ok fields ∧ fields.count = 1 ∧
      ((fields.field 0).run MemoryImage.shiftedStorage.host []).outcome =
        .ok ⟨"[0]", .tagged (.smallInt 7)⟩ := by
  exact ⟨rfl, by decide +kernel, _, rfl, rfl, by decide +kernel⟩

end HeapInspector
