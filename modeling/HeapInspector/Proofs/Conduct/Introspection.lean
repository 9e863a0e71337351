import HeapInspector.Proofs.Conduct.Decoders
import HeapInspector.Snapshot

/-! What describing a value does to the host, and what no host can do to it. Whatever bytes or errors a
host responds with, nothing reaches a defect, and nothing is read before it is asked for. -/
namespace HeapInspector

open Inquiry

/-- The decoders that the inspector comes with: those of the built-in types and the one by layout. -/
def Decoder.standard : List Decoder := Registry.builtin.entries.map (·.2) ++ [Decoder.byLayout]

namespace Decoder

/-- Two of the built-in types have slots. -/
theorem eq_of_mem_standard {decoder : Decoder} (h : decoder ∈ standard) :
    decoder = bool ∨ decoder = float ∨ decoder = nil ∨ decoder = array ∨ decoder = slots ∨
      decoder = symbol ∨ decoder = string ∨ decoder = bytes ∨ decoder = typeDescriptor ∨
      decoder = byLayout := by
  simp only [standard, Registry.builtin, List.map_cons, List.map_nil, List.cons_append,
    List.nil_append, List.mem_cons, List.not_mem_nil, or_false] at h
  rcases h with h | h | h | h | h | h | h | h | h | h | h <;> simp [h]

theorem slots_mem_standard : slots ∈ standard := by simp [standard, Registry.builtin]

end Decoder

/-- A registry with standard decoders only, under whatever names. -/
def Registry.IsStandard (registry : Registry) : Prop :=
  ∀ entry ∈ registry.entries, entry.2 ∈ Decoder.standard

namespace Registry

theorem builtin_isStandard : builtin.IsStandard := fun _ h =>
  List.mem_append_left _ (List.mem_map_of_mem h)

theorem empty_isStandard : empty.IsStandard := fun _ h => by cases h

/-- What is looked up is the decoder by layout or one of those that are registered. -/
theorem lookup_eq (registry : Registry) (name : Option String) :
    registry.lookup name = Decoder.byLayout ∨
      ∃ entry ∈ registry.entries, registry.lookup name = entry.2 := by
  unfold lookup
  cases hFound : name.bind registry.get? with
  | none => exact .inl rfl
  | some decoder =>
      obtain ⟨text, _, hGet⟩ := Option.bind_eq_some_iff.mp hFound
      obtain ⟨before, after, hEntries, _⟩ := List.lookup_eq_some_iff.mp hGet
      exact .inr ⟨(TypeKey.ofName text, decoder), by simp [hEntries], rfl⟩

theorem lookup_mem_standard {registry : Registry} (h : registry.IsStandard) (name : Option String) :
    registry.lookup name ∈ Decoder.standard := by
  rcases registry.lookup_eq name with hLayout | ⟨entry, hMem, hEntry⟩
  · rw [hLayout]
    exact List.mem_append_right _ (List.mem_singleton.mpr rfl)
  · rw [hEntry]
    exact h entry hMem

end Registry

variable {conduct : Conduct}

/-- Only arrays have a second object to read, which is their storage. -/
theorem Decoder.orderly_of_ne_array {decoder : Decoder} {object : ObjectRef}
    (hAllows : conduct.Allows object) (hMem : decoder ∈ Decoder.standard) (hOther : decoder ≠ array) :
    decoder.Orderly conduct object := by
  rcases eq_of_mem_standard hMem with rfl | rfl | rfl | rfl | rfl | rfl | rfl | rfl | rfl | rfl
  · exact bool_orderly hAllows
  · exact float_orderly hAllows
  · exact nil_orderly
  · exact absurd rfl hOther
  · exact slots_orderly hAllows
  · exact symbol_orderly hAllows
  · exact string_orderly hAllows
  · exact bytes_orderly hAllows
  · exact typeDescriptor_orderly hAllows
  · exact byLayout_orderly hAllows

theorem Decoder.orderly_of_mem_standard (hAllows : ∀ object, conduct.Allows object)
    {decoder : Decoder} (hMem : decoder ∈ Decoder.standard) (object : ObjectRef) :
    decoder.Orderly conduct object := by
  by_cases hArray : decoder = array
  · exact hArray ▸ array_orderly hAllows
  · exact orderly_of_ne_array (hAllows object) hMem hArray

/-- Everything is in order, as long as no read is larger than a payload. -/
def Conduct.payloads : Conduct := ⟨fun request => request.size ≤ maxPayloadSize, fun _ => True⟩

theorem Conduct.payloads_allows (object : ObjectRef) : payloads.Allows object :=
  ⟨fun _ => trivial, fun _ _ hSize _ => hSize, fun _ => trivial⟩

/-- Everything is in order, as long as no read runs past the last address of the inspecting machine. -/
def Conduct.reachable : Conduct :=
  ⟨fun request => request.address + request.size < machineBound, fun _ => True⟩

theorem Conduct.reachable_allows (object : ObjectRef) : reachable.Allows object :=
  ⟨fun _ => trivial, fun _ _ _ hReach => hReach, fun _ => trivial⟩

namespace Introspector

variable {i : Introspector}

theorem describeObject_of_misaligned {address : Nat} (h : address / 2 % 2 = 1) :
    i.describeObject address = .fail (.error (.decode address .misalignedReference)) :=
  if_pos h

/-- The header is all that is read of an object. -/
theorem meets_describeObject {address : Nat} (hFaults : conduct.PassesFaults)
    (hAdmits : conduct.Admits address i.arch.headerSize)
    (hMisaligned : conduct.reports (.decode address .misalignedReference)) :
    (i.describeObject address).Meets conduct
      (fun d => d.address = address ∧ ∃ name, d.decoder = i.registry.lookup name) 1 := by
  unfold describeObject
  split
  · exact .error hMisaligned
  · apply (Architecture.meets_readHeader hFaults hAdmits).bind
    intro header _
    exact .pure ⟨rfl, _, rfl⟩

theorem meets_describeObject_payloads (i : Introspector) (address : Nat) :
    (i.describeObject address).Meets Conduct.payloads
      (fun d => d.address = address ∧ ∃ name, d.decoder = i.registry.lookup name) 1 := by
  have hHeader : i.arch.headerSize ≤ maxPayloadSize :=
    (Nat.mul_le_mul_left 2 i.arch.wordSize_le).trans (by decide)
  exact meets_describeObject (fun _ => trivial) (fun _ => hHeader) trivial

theorem decoder_mem_standard (i : Introspector) (hStandard : i.registry.IsStandard) {address : Nat}
    {d : ObjectDescription} (h : (i.describeObject address).MayReturn d) :
    d.decoder ∈ Decoder.standard := by
  obtain ⟨_, name, hName⟩ := (i.meets_describeObject_payloads address).post_of_mayReturn h
  rw [hName]
  exact Registry.lookup_mem_standard hStandard name

/-- A description of an object has one of the decoders that the registry can give. -/
theorem meets_describe (hAllows : ∀ object, conduct.Allows object) (word : Nat) :
    (i.describe word).Meets conduct
      (fun description => ∀ d, description = .object d →
        ∃ name, d.decoder = i.registry.lookup name) 1 := by
  unfold describe
  cases Tagged.classify i.arch.width word with
  | null => exact .pure (by simp)
  | smallInt value => exact .pure (by simp)
  | reference address =>
      have hObject := hAllows ⟨i.arch, address, .ofWords 0 0⟩
      have hHeader : i.arch.headerSize ≤ maxPayloadSize :=
        (Nat.mul_le_mul_left 2 i.arch.wordSize_le).trans (by decide)
      apply (meets_describeObject hObject.faults (hObject.payloads address _ hHeader)
        (hObject.blames _)).bind
      rintro d ⟨_, hDecoder⟩
      apply Meets.pure
      intro found hFound
      cases hFound
      exact hDecoder

/-- The requests of describing: none, or the two words of the header of the object that the word
references. -/
theorem requests_describe (i : Introspector) (word : Nat) (host : Host) (past : List Request) :
    ((i.describe word).run host past).requests = [] ∨
      ∃ address, Tagged.classify i.arch.width word = .reference address ∧ address / 2 % 2 = 0 ∧
        ((i.describe word).run host past).requests = [⟨address, 2 * i.arch.wordSize⟩] := by
  unfold describe
  cases hClass : Tagged.classify i.arch.width word with
  | null => exact .inl rfl
  | smallInt value => exact .inl rfl
  | reference address =>
      by_cases hAligned : address / 2 % 2 = 1
      · left
        rw [describeTagged, describeObject_of_misaligned hAligned]
        rfl
      · let only : Conduct := ⟨(· = ⟨address, i.arch.headerSize⟩), fun _ => True⟩
        have hObject : (i.describeObject address).Meets only _ 1 :=
          meets_describeObject (fun _ => trivial) (fun _ => rfl) trivial
        have hTagged : (i.describeTagged (.reference address)).Meets only (fun _ => True) 1 :=
          hObject.bind fun d _ => .pure trivial
        rcases hTagged.requests_eq (fun _ hAsked => hAsked) host past with hNone | hOne
        · exact .inl hNone
        · exact .inr ⟨address, rfl, by omega, hOne⟩

end Introspector

namespace Fields

variable {fields : Fields}

/-- The errors of a field become its value, and nothing else makes it unavailable. -/
theorem Orderly.meets_field (h : fields.Orderly conduct) {index : Nat} (hIndex : index < fields.count) :
    (fields.field index).Meets conduct.quiet
      (fun field => ∀ e, field.value = .unavailable e → conduct.reports e) 1 := by
  unfold field
  apply (h.value index hIndex).attempt.bind
  intro result hResult
  cases result with
  | ok value =>
      apply Meets.pure
      rintro e ⟨⟩
      cases hResult
  | error found =>
      apply Meets.pure
      rintro e ⟨⟩
      exact hResult

theorem Orderly.meets_all (h : fields.Orderly conduct) :
    fields.all.Meets conduct.quiet (fun _ => True) maxPayloadSize := by
  have hEach : fields.all.Meets conduct.quiet _ ((List.range fields.count).length * 1) :=
    Meets.forEach fun index hMem => h.meets_field (List.mem_range.mp hMem)
  have hCount : (List.range fields.count).length * 1 ≤ maxPayloadSize := by
    rw [List.length_range, Nat.mul_one]
    exact h.count_le
  exact (hEach.mono hCount).imp fun _ _ => trivial

end Fields

/-- A snapshot replaces whatever fails, so that it has nothing to report. -/
theorem ObjectDescription.meets_snapshot {d : ObjectDescription}
    (h : d.decoder.Orderly conduct d.object) :
    d.snapshot.Meets conduct.quiet (fun _ => True) (maxPayloadSize + 3 + 2) := by
  unfold snapshot
  apply Meets.bind h.value.attempt
  intro value _
  apply Meets.bind h.fields.attempt
  intro located hLocated
  cases located with
  | error e => exact .pure trivial
  | ok fields =>
      have hFields : fields.Orderly conduct := hLocated
      exact hFields.meets_all.bind fun _ _ => .pure trivial

/-- Whatever a host responds, describing a word and looking at what it describes never reaches a
defect: no index is out of bounds, no integer is read from more than eight bytes, no sum, difference
or product of sizes overflows. Snapshots and single fields do not even end in an error. Hosts may
change their minds between the stages. -/
theorem introspection_never_stops (i : Introspector) (hRegistry : i.registry.IsStandard) (word : Nat) :
    (i.describe word).NeverStops ∧
    (∀ description, (i.describe word).MayReturn description → description.snapshot.AlwaysReturns) ∧
    (∀ d, (i.describe word).MayReturn (.object d) →
      d.value.NeverStops ∧ d.fields.NeverStops ∧
      ∀ fields, d.fields.MayReturn fields →
        ∀ index < fields.count, (fields.field index).AlwaysReturns) ∧
    ∀ tagged, 2 * (decodeSmallInt i.arch.width tagged).natAbs ≤ signedBound := by
  have hDescribe := i.meets_describe Conduct.payloads_allows word
  have hDecoder (d : ObjectDescription) (hReturn : (i.describe word).MayReturn (.object d)) :
      d.decoder.Orderly Conduct.payloads d.object := by
    obtain ⟨name, hName⟩ := hDescribe.post_of_mayReturn hReturn d rfl
    rw [hName]
    exact Decoder.orderly_of_mem_standard Conduct.payloads_allows
      (Registry.lookup_mem_standard hRegistry name) d.object
  refine ⟨hDescribe.neverStops, ?_, ?_, ?_⟩
  · intro description hReturn
    cases description with
    | null => exact fun _ _ => ⟨.null, rfl⟩
    | smallInt value => exact fun _ _ => ⟨.smallInt value, rfl⟩
    | object d =>
        have hSnapshot := ObjectDescription.meets_snapshot (hDecoder d hReturn)
        have hWhole : (Description.object d).snapshot.Meets Conduct.payloads.quiet
            (fun _ => True) (0 + _) := hSnapshot.bind fun _ _ => .pure trivial
        exact hWhole.alwaysReturns
  · intro d hReturn
    have hOrderly := hDecoder d hReturn
    refine ⟨hOrderly.value.neverStops, hOrderly.fields.neverStops, ?_⟩
    intro fields hFields index hIndex
    have hLocated := hOrderly.fields.post_of_mayReturn hFields
    exact (hLocated.meets_field hIndex).alwaysReturns
  · exact two_mul_natAbs_decodeSmallInt_le i.arch.width

/-- Zeros everywhere are an object with a type at address zero, and here that is a type of tuples. -/
theorem introspection_never_stops_zeros :
    Registry.builtin.IsStandard ∧
    ∃ d, (Introspector.describe ⟨⟨.w64, .big⟩, fun _ => some "type_Tuple", .builtin⟩
        0x1000).MayReturn (.object d) ∧
      d.value.NeverStops ∧ d.fields.NeverStops ∧ (Description.object d).snapshot.AlwaysReturns := by
  have hReturn : (Introspector.describe ⟨⟨.w64, .big⟩, fun _ => some "type_Tuple", .builtin⟩
      0x1000).MayReturn (.object ⟨⟨⟨.w64, .big⟩, 0x1000, .ofWords 0 0⟩, .named "type_Tuple",
        Registry.builtin.lookup (some "type_Tuple")⟩) :=
    ⟨fun _ request => .ok (List.replicate request.size 0), [], rfl⟩
  have hAll := introspection_never_stops ⟨⟨.w64, .big⟩, fun _ => some "type_Tuple", .builtin⟩
    Registry.builtin_isStandard 0x1000
  have hStages := hAll.2.2.1 _ hReturn
  exact ⟨Registry.builtin_isStandard, _, hReturn, hStages.1, hStages.2.1, hAll.2.1 _ hReturn⟩

/-- Nothing is read ahead of its use. Describing reads at most the two words of a header, and nothing
at all unless the word is an aligned reference. A value takes at most two reads, locating fields at
most three, and each field at most one. No read is larger than a payload. -/
theorem introspection_is_lazy (i : Introspector) (word : Nat) (decoder : Decoder)
    (hDecoder : decoder ∈ Decoder.standard) (object : ObjectRef) :
    (∀ host past, ((i.describe word).run host past).requests = [] ∨
      ∃ address, Tagged.classify i.arch.width word = .reference address ∧ address / 2 % 2 = 0 ∧
        ((i.describe word).run host past).requests = [⟨address, 2 * i.arch.wordSize⟩]) ∧
    (i.describe word).AsksAtMost 1 maxPayloadSize ∧
    (decoder.value object).AsksAtMost 2 maxPayloadSize ∧
    (decoder.fields object).AsksAtMost 3 maxPayloadSize ∧
    ∀ fields, (decoder.fields object).MayReturn fields →
      ∀ index < fields.count, (fields.field index).AsksAtMost 1 maxPayloadSize := by
  have hOrderly := Decoder.orderly_of_mem_standard Conduct.payloads_allows hDecoder object
  have hDescribe := i.meets_describe Conduct.payloads_allows word
  refine ⟨i.requests_describe word, hDescribe.asksAtMost fun _ => id,
    hOrderly.value.asksAtMost fun _ => id, hOrderly.fields.asksAtMost fun _ => id, ?_⟩
  intro fields hFields index hIndex
  have hLocated := hOrderly.fields.post_of_mayReturn hFields
  exact (hLocated.meets_field hIndex).asksAtMost fun _ => id

/-- The decoder of tuples is one of those that the inspector comes with. -/
theorem introspection_is_lazy_tuple :
    Decoder.slots ∈ Decoder.standard ∧
    (Decoder.fields .slots ⟨⟨.w32, .little⟩, 0x1000, .ofWords 0 0⟩).AsksAtMost 3 maxPayloadSize := by
  have hMem : Decoder.slots ∈ Decoder.standard := by simp [Decoder.standard, Registry.builtin]
  have hAll := introspection_is_lazy ⟨⟨.w32, .little⟩, fun _ => none, .empty⟩ 0 Decoder.slots hMem
    ⟨⟨.w32, .little⟩, 0x1000, .ofWords 0 0⟩
  exact ⟨hMem, hAll.2.2.2.1⟩

/-- No range wraps around. Whatever the headers, counts and sizes of the target's memory say, a range
that would run past 64 bits is refused before the host is asked. That is the address space of a target
with words of 64 bits; the guards do not know the width of the target. -/
theorem requests_never_wrap (i : Introspector) (word : Nat) (decoder : Decoder)
    (hDecoder : decoder ∈ Decoder.standard) (object : ObjectRef) :
    (i.describe word).AsksWithin machineBound ∧
    (decoder.value object).AsksWithin machineBound ∧
    (decoder.fields object).AsksWithin machineBound ∧
    ∀ fields, (decoder.fields object).MayReturn fields →
      ∀ index < fields.count, (fields.field index).AsksWithin machineBound := by
  have hOrderly := Decoder.orderly_of_mem_standard Conduct.reachable_allows hDecoder object
  have hDescribe := i.meets_describe Conduct.reachable_allows word
  refine ⟨hDescribe.asksWithin fun _ => Nat.le_of_lt,
    hOrderly.value.asksWithin fun _ => Nat.le_of_lt,
    hOrderly.fields.asksWithin fun _ => Nat.le_of_lt, ?_⟩
  intro fields hFields index hIndex
  have hLocated := hOrderly.fields.post_of_mayReturn hFields
  exact (hLocated.meets_field hIndex).asksWithin fun _ => Nat.le_of_lt

/-- A tuple whose header ends with the last address. Nothing can be read behind it. -/
theorem requests_never_wrap_last :
    Decoder.slots ∈ Decoder.standard ∧
    (Decoder.fields .slots ⟨⟨.w64, .little⟩, 0xfffffffffffffff0, .ofWords 0 0⟩).AsksWithin
      (Width.modulus .w64) := by
  have hAll := requests_never_wrap ⟨⟨.w64, .little⟩, fun _ => none, .empty⟩ 0 Decoder.slots
    Decoder.slots_mem_standard ⟨⟨.w64, .little⟩, 0xfffffffffffffff0, .ofWords 0 0⟩
  exact ⟨Decoder.slots_mem_standard, hAll.2.2.1⟩

/-- At the narrow width the address space of the target is left: a header is asked for that runs past
its end, and the count of a tuple, all of which lies behind the end. -/
theorem narrow_space_is_left :
    ¬ (Introspector.describe ⟨⟨.w32, .little⟩, fun _ => none, .builtin⟩ 0xfffffffc).AsksWithin
        (Width.modulus .w32) ∧
    ¬ (Decoder.value .slots ⟨⟨.w32, .little⟩, 0xfffffff8, .ofWords 0 0⟩).AsksWithin
        (Width.modulus .w32) := by
  constructor
  · intro h
    have hHeader : 0xfffffffc + 8 ≤ Width.modulus .w32 :=
      h (fun _ _ => .ok []) [] ⟨0xfffffffc, 8⟩ (List.mem_singleton.mpr rfl)
    revert hHeader
    decide
  · intro h
    have hCount : 0x100000000 + 4 ≤ Width.modulus .w32 :=
      h (fun _ _ => .ok []) [] ⟨0x100000000, 4⟩ (List.mem_singleton.mpr rfl)
    revert hCount
    decide

end HeapInspector
