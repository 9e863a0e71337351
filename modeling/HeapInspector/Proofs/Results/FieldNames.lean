import HeapInspector.Proofs.Results.Still

/-! Names of fields. Under which names a decoder locates its fields hangs on nothing that is read, so
nothing has to be known here of the parts of an inquiry but the last one. -/
namespace HeapInspector

/-- The text does not begin with a blank. -/
def Unindented (text : String) : Prop := text.toList.head? ≠ some ' '

instance (text : String) : Decidable (Unindented text) := inferInstanceAs (Decidable (_ ≠ _))

namespace Inquiry

variable {α β : Type} {post : α → Prop}

/-- Every value that some host brings the inquiry to has the property. -/
def Returns (post : α → Prop) (i : Inquiry α) : Prop := ∀ value, i.MayReturn value → post value

namespace Returns

theorem pure {value : α} (h : post value) : (Pure.pure value : Inquiry α).Returns post := by
  rintro found ⟨host, past, hReturn⟩
  cases hReturn
  exact h

theorem stopped {failure : Failure} : (fail failure : Inquiry α).Returns post := by
  rintro found ⟨host, past, hReturn⟩
  cases hReturn

/-- The last part of an inquiry says what it returns. -/
theorem bind {i : Inquiry β} {next : β → Inquiry α} (h : ∀ value, (next value).Returns post) :
    (i >>= next).Returns post := by
  rintro result ⟨host, past, hReturn⟩
  cases hFirst : (i.run host past).outcome with
  | error failure =>
      rw [outcome_bind_of_error next hFirst] at hReturn
      cases hReturn
  | ok value =>
      obtain ⟨later, hLater⟩ := exists_run_bind next hFirst
      exact h value result ⟨host, later, hLater.symm.trans hReturn⟩

end Returns

end Inquiry

open Inquiry

namespace Fields

variable {first second : Fields} {name : String}

/-- No name of a field begins with a blank. -/
def Unindented (fields : Fields) : Prop := ∀ index, HeapInspector.Unindented (fields.name index)

theorem unindented_none : none.Unindented := by
  have hEmpty : HeapInspector.Unindented "" := by decide
  exact fun _ => hEmpty

theorem unindented_one {value : Inquiry FieldValue} (h : HeapInspector.Unindented name) :
    (one name value).Unindented := fun _ => h

theorem unindented_known {value : FieldValue} (h : HeapInspector.Unindented name) :
    (known name value).Unindented := unindented_one h

theorem Unindented.append (hFirst : first.Unindented) (hSecond : second.Unindented) :
    (first ++ second).Unindented := by
  intro index
  change HeapInspector.Unindented (if index < first.count then _ else _)
  split
  · exact hFirst _
  · exact hSecond _

end Fields

namespace Decoder

variable {object : ObjectRef}

theorem elements_unindented (length : Nat) : (elements object length).Unindented := by
  intro index
  simp [elements, elementName, HeapInspector.Unindented]

theorem rawSlots_unindented (count : Nat) : (rawSlots object count).Unindented := by
  intro index
  simp [rawSlots, slotName, HeapInspector.Unindented]

theorem rawBytes_unindented (part : BytesPart) : (rawBytes object part).Unindented := by
  unfold rawBytes
  split
  · exact Fields.unindented_none
  · exact Fields.unindented_one (by decide)

theorem unindented_descriptorFieldName (index : Nat) :
    HeapInspector.Unindented (descriptorFieldNames.getD index "") := by
  have hNames : ∀ name ∈ descriptorFieldNames, HeapInspector.Unindented name := by decide
  rw [List.getD_eq_getElem?_getD]
  cases hName : descriptorFieldNames[index]? with
  | none => decide
  | some name => exact hNames name (List.mem_of_getElem? hName)

theorem symbol_fields_unindented : (symbol.fields object).Returns Fields.Unindented := by
  apply Returns.bind
  intro words
  split
  · apply Returns.pure
    apply ((Fields.unindented_known (by decide)).append (Fields.unindented_known (by decide))).append
    exact Fields.unindented_one (by decide)
  · exact .stopped

theorem string_fields_unindented : (string.fields object).Returns Fields.Unindented := by
  apply Returns.bind
  intro layout
  apply Returns.pure
  apply ((Fields.unindented_known (by decide)).append (Fields.unindented_known (by decide))).append
  exact Fields.unindented_one (by decide)

theorem bytes_fields_unindented : (bytes.fields object).Returns Fields.Unindented := by
  apply Returns.bind
  intro size
  apply Returns.pure
  exact (Fields.unindented_known (by decide)).append (Fields.unindented_one (by decide))

theorem byLayout_fields_unindented : (byLayout.fields object).Returns Fields.Unindented :=
  .bind fun _ => .bind fun slotCount => .bind fun part =>
    .pure ((rawSlots_unindented slotCount).append (rawBytes_unindented part))

theorem fields_unindented_of_mem_standard {decoder : Decoder} (hMem : decoder ∈ standard)
    (object : ObjectRef) : (decoder.fields object).Returns Fields.Unindented := by
  rcases eq_of_mem_standard hMem with rfl | rfl | rfl | rfl | rfl | rfl | rfl | rfl | rfl | rfl
  · exact .pure (Fields.unindented_one (by decide))
  · exact .pure (Fields.unindented_one (by decide))
  · exact .pure Fields.unindented_none
  · exact .bind fun _ => .pure (elements_unindented _)
  · exact .bind fun _ => .pure (elements_unindented _)
  · exact symbol_fields_unindented
  · exact string_fields_unindented
  · exact bytes_fields_unindented
  · exact .pure unindented_descriptorFieldName
  · exact byLayout_fields_unindented

end Decoder

namespace Fields

variable {host : Host} {fields : Fields} {list : List Field}

theorem field_returns_name (fields : Fields) (index : Nat) :
    (fields.field index).Returns fun field => field.name = fields.name index := by
  apply Returns.bind
  intro result
  cases result with
  | ok value => exact .pure rfl
  | error e => exact .pure rfl

/-- What is shown of the fields has their names. -/
theorem Unindented.of_show (h : fields.Unindented) (hShow : fields.Show host list) :
    ∀ field ∈ list, HeapInspector.Unindented field.name := by
  intro field hMem
  obtain ⟨index, hIndex, rfl⟩ := List.getElem_of_mem hMem
  rw [fields.field_returns_name index _ (hShow.field index hIndex).mayReturn]
  exact h index

end Fields

end HeapInspector
