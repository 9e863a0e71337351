import HeapInspector.Proofs.Dialogue.Decoders

/-! What becomes of the host's faults, and how far the reads of a payload go. Both are read off the
decoders' judgements: a fault ends the operation that meets it, and whatever is read of a payload was
declared by words that had been read before. -/
namespace HeapInspector

open Inquiry

variable {host : Host} {past : List Request}

namespace Fields

variable {fields : Fields} {index : Nat}

/-- How a field ends whose value ends like that. -/
def settle (fields : Fields) (index : Nat) : Except Failure FieldValue → Except Failure Field
  | .ok value => .ok ⟨fields.name index, value⟩
  | .error (.error error) => .ok ⟨fields.name index, .unavailable error⟩
  | .error (.defect defect) => .error (.defect defect)

/-- Making a field of a value asks for nothing else. -/
theorem run_field :
    (fields.field index).run host past =
      ⟨fields.settle index ((fields.value index).run host past).outcome,
        ((fields.value index).run host past).trace⟩ := by
  unfold field
  generalize fields.value index = value
  induction value generalizing past with
  | done value => rfl
  | fail failure => cases failure <;> rfl
  | read request resume ih =>
      simp only [bind_eq] at ih
      simp only [bind_eq, attempt, Inquiry.bind, run, ih]

theorem field_endsAtFaults (h : (fields.value index).RelaysFaults) :
    (fields.field index).EndsAtFaults fun fault =>
      .ok ⟨fields.name index, .unavailable (.memoryAccess fault)⟩ := by
  intro host past before exchange after fault hTrace hFault
  simp only [run_field] at hTrace ⊢
  obtain ⟨hLast, hOutcome⟩ := h host past before exchange after fault hTrace hFault
  exact ⟨hLast, by rw [hOutcome]; rfl⟩

end Fields

namespace Introspector

theorem follows_describe (i : Introspector) (word : Nat) :
    (i.describe word).Follows (fun _ _ => True) (fun _ _ => True) [] := by
  unfold describe
  cases Tagged.classify i.arch.width word with
  | null => exact .pure trivial
  | smallInt value => exact .pure trivial
  | reference address =>
      have hObject : (i.describeObject address).Follows (fun _ _ => True) (fun _ _ => True) [] := by
        unfold describeObject
        split
        · exact .fail
        · exact (Architecture.follows_readHeader trivial).bind fun _ _ _ => .pure trivial
      exact hObject.bind fun _ _ _ => .pure trivial

end Introspector

namespace Decoder

variable {decoder : Decoder} {object : ObjectRef} {fixedWords : Nat}
  {declares : Readings → Request → Prop}

theorem exists_keepsTo (hMem : decoder ∈ standard) (object : ObjectRef) :
    ∃ fixedWords declares, decoder.KeepsTo object fixedWords declares := by
  rcases eq_of_mem_standard hMem with rfl | rfl | rfl | rfl | rfl | rfl | rfl | rfl | rfl | rfl
  · exact ⟨_, _, bool_keepsTo⟩
  · exact ⟨_, _, float_keepsTo⟩
  · exact ⟨_, _, nil_keepsTo⟩
  · exact ⟨_, _, array_keepsTo⟩
  · exact ⟨_, _, slots_keepsTo⟩
  · exact ⟨_, _, symbol_keepsTo⟩
  · exact ⟨_, _, string_keepsTo⟩
  · exact ⟨_, _, bytes_keepsTo⟩
  · exact ⟨_, _, typeDescriptor_keepsTo⟩
  · exact ⟨_, _, byLayout_keepsTo⟩

/-- Whichever host responds, a value is read from the fixed words of the payload, and from then on from
what these words declare. A field is read from what the words declare that were read to locate it, even
if another host responds then. -/
structure StaysWithin (decoder : Decoder) (object : ObjectRef) (fixedWords : Nat)
    (declares : Readings → Request → Prop) : Prop where
  value : ∀ host past before exchange after,
    ((decoder.value object).run host past).trace = before ++ exchange :: after →
      object.valueAgenda fixedWords declares before exchange.request
  field : ∀ host past fields, ((decoder.fields object).run host past).outcome = .ok fields →
    ∀ index < fields.count, ∀ later laterPast,
      ∀ request ∈ ((fields.field index).run later laterPast).requests,
        declares (object.arch.readings ((decoder.fields object).run host past).trace) request

theorem KeepsTo.staysWithin (h : decoder.KeepsTo object fixedWords declares) :
    decoder.StaysWithin object fixedWords declares where
  value _ _ _ _ _ hTrace := h.value.agenda_of_trace hTrace
  field host past fields hReturn index hIndex later laterPast request hMem := by
    have hDeclared := h.fields.post_of_run hReturn index hIndex
    rw [Run.requests, Fields.run_field] at hMem
    exact hDeclared.forall_requests request hMem

end Decoder

/-- Faults of the host are relayed as they are, and the host is not asked again. In every operation the
request that comes to a fault is the last one, be it that the host reports one or that it responds with
another number of bytes than were asked for. The operation ends with this fault; a field has it for a
value. -/
theorem memory_faults_are_relayed (i : Introspector) (word : Nat) (decoder : Decoder)
    (hDecoder : decoder ∈ Decoder.standard) (object : ObjectRef) :
    (i.describe word).RelaysFaults ∧
    (decoder.value object).RelaysFaults ∧
    (decoder.fields object).RelaysFaults ∧
    ∀ fields, (decoder.fields object).MayReturn fields → ∀ index < fields.count,
      (fields.field index).EndsAtFaults fun fault =>
        .ok ⟨fields.name index, .unavailable (.memoryAccess fault)⟩ := by
  obtain ⟨fixedWords, declares, hKeeps⟩ := Decoder.exists_keepsTo hDecoder object
  refine ⟨(i.follows_describe word).relaysFaults, hKeeps.value.relaysFaults,
    hKeeps.fields.relaysFaults, ?_⟩
  rintro fields ⟨host, past, hReturn⟩ index hIndex
  exact Fields.field_endsAtFaults (hKeeps.fields.post_of_run hReturn index hIndex).relaysFaults

/-- A tuple whose count the host has no bytes for. -/
theorem memory_faults_are_relayed_short :
    Decoder.slots ∈ Decoder.standard ∧
    ((Decoder.value .slots ⟨⟨.w64, .little⟩, 0x1000, .ofWords 0 0⟩).run
        (fun _ _ => .ok []) []).outcome =
      .error (.error (.memoryAccess ⟨0x1010, 8, "short read of 0 bytes"⟩)) := by
  have hAll := memory_faults_are_relayed ⟨⟨.w64, .little⟩, fun _ => none, .empty⟩ 0 Decoder.slots
    Decoder.slots_mem_standard ⟨⟨.w64, .little⟩, 0x1000, .ofWords 0 0⟩
  have hEnd := hAll.2.1 (fun _ _ => .ok []) [] [] ⟨⟨0x1010, 8⟩, .ok []⟩ [] _ rfl rfl
  exact ⟨Decoder.slots_mem_standard, hEnd.2⟩

/-- No payload is read beyond what the object declares of itself: the slots that are counted, the data
behind the fixed words of a text up to its stored size, as many bytes as a string or a byte string
says, as many words of an array's storage as the array has elements, and the slots and bytes of a type's
layout. The sizes and counts are the ones that were read, whatever they are. -/
theorem payload_reads_stay_declared (object : ObjectRef) :
    Decoder.slots.StaysWithin object 1 (Decoder.slotsDeclare object) ∧
    Decoder.array.StaysWithin object 2 (Decoder.arrayDeclares object) ∧
    Decoder.symbol.StaysWithin object 1 (Decoder.symbolDeclares object) ∧
    Decoder.string.StaysWithin object 2 (Decoder.stringDeclares object) ∧
    Decoder.bytes.StaysWithin object 2 (Decoder.bytesDeclare object) ∧
    Decoder.byLayout.StaysWithin object 0 (Decoder.layoutDeclares object) :=
  ⟨Decoder.slots_keepsTo.staysWithin, Decoder.array_keepsTo.staysWithin,
    Decoder.symbol_keepsTo.staysWithin, Decoder.string_keepsTo.staysWithin,
    Decoder.bytes_keepsTo.staysWithin, Decoder.byLayout_keepsTo.staysWithin⟩

/-- A count of three leaves two slots behind it, and no other word is read for their values. -/
theorem payload_reads_stay_declared_tuple :
    ∃ fields, (Decoder.slots.fields ⟨⟨.w64, .little⟩, 0x1000, .ofWords 0 0⟩).MayReturn fields ∧
      fields.count = 2 ∧ ∀ index < 2, ∀ host past,
        ∀ request ∈ ((fields.field index).run host past).requests, request.Within 0x1018 0x1028 := by
  have hStays := (payload_reads_stay_declared ⟨⟨.w64, .little⟩, 0x1000, .ofWords 0 0⟩).1.field
    (fun _ request => .ok (7 :: List.replicate (request.size - 1) 0)) [] _ rfl
  refine ⟨_, ⟨fun _ request => .ok (7 :: List.replicate (request.size - 1) 0), [], rfl⟩, rfl, ?_⟩
  intro index hIndex host past request hMem
  obtain ⟨stored, count, hRead, hCount, hWithin⟩ := hStays index hIndex host past request hMem
  have hWord : [((⟨0x1010, 8⟩ : Request), [7])] = [(⟨0x1010, 8⟩, [stored])] := hRead
  simp only [List.cons.injEq, Prod.mk.injEq, and_true, true_and] at hWord
  subst hWord
  have hThree : (3 : Int) = count := Tagged.smallInt.inj hCount
  obtain rfl : count = 3 := by omega
  exact hWithin

end HeapInspector
