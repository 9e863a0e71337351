import HeapInspector.Image
import HeapInspector.Proofs.Dialogue.Introspection
import HeapInspector.Proofs.Results.Still
import HeapInspector.Proofs.Text.Flat

/-! Texts that decoders come to. As long as the host gives its reasons in flat texts, every error has a
flat message and every value and every field is shown by a flat text, whatever the memory holds. Defects
have no text, so nothing has to be known here of sizes and lengths. -/
namespace HeapInspector

/-- The reasons that the host gives are flat. -/
def Host.GivesFlatReasons (host : Host) : Prop :=
  ∀ past request fault, host past request = .error fault → Flat fault.reason

namespace Inquiry

variable {α β : Type} {host : Host} {post : α → Prop} {i : Inquiry α}

/-- Every value that the host brings the inquiry to has the property `post`, and the message of every
error is flat. -/
structure EndsFlat (host : Host) (post : α → Prop) (i : Inquiry α) : Prop where
  value : ∀ past value, (i.run host past).outcome = .ok value → post value
  error : ∀ past e, (i.run host past).outcome = .error (.error e) → Flat e.message

namespace EndsFlat

theorem pure {value : α} (h : post value) : (Pure.pure value : Inquiry α).EndsFlat host post :=
  ⟨fun _ _ hReturn => Except.ok.inj hReturn ▸ h, nofun⟩

theorem failed {e : Error} (h : Flat e.message) : (Inquiry.error e).EndsFlat host post :=
  ⟨nofun, fun _ _ hFails => Failure.error.inj (Except.error.inj hFails) ▸ h⟩

theorem stopped {d : Defect} : (defect d).EndsFlat host post := ⟨nofun, nofun⟩

theorem bind {goal : β → Prop} {next : α → Inquiry β} (h : i.EndsFlat host post)
    (hNext : ∀ value, post value → (next value).EndsFlat host goal) :
    (i >>= next).EndsFlat host goal := by
  constructor
  · intro past result hReturn
    cases hFirst : (i.run host past).outcome with
    | error failure =>
        rw [outcome_bind_of_error next hFirst] at hReturn
        cases hReturn
    | ok value =>
        obtain ⟨later, hLater⟩ := exists_run_bind next hFirst
        rw [hLater] at hReturn
        exact (hNext value (h.value past value hFirst)).value later result hReturn
  · intro past e hFails
    cases hFirst : (i.run host past).outcome with
    | error failure =>
        rw [outcome_bind_of_error next hFirst] at hFails
        cases hFails
        exact h.error past e hFirst
    | ok value =>
        obtain ⟨later, hLater⟩ := exists_run_bind next hFirst
        rw [hLater] at hFails
        exact (hNext value (h.value past value hFirst)).error later e hFails

theorem forEach {f : α → Inquiry β} (h : ∀ a, (f a).EndsFlat host fun _ => True) (list : List α) :
    (Inquiry.forEach f list).EndsFlat host fun _ => True := by
  induction list with
  | nil => exact .pure trivial
  | cons a rest ih => exact (h a).bind fun _ _ => ih.bind fun _ _ => .pure trivial

/-- A view of what has been found. -/
theorem map {goal : β → Prop} {view : α → β} (h : i.EndsFlat host fun _ => True)
    (hView : ∀ value, goal (view value)) : (do return view (← i) : Inquiry β).EndsFlat host goal :=
  h.bind fun value _ => .pure (hView value)

end EndsFlat

theorem endsFlat_natural {value : Nat} : (natural value).EndsFlat host fun _ => True := by
  unfold natural
  split
  · exact .pure trivial
  · exact .stopped

theorem endsFlat_integer {value : Int} : (integer value).EndsFlat host fun _ => True := by
  unfold integer
  split
  · exact .pure trivial
  · exact .stopped

/-- Next to what the host says there are two reasons of the reader's own. -/
theorem endsFlat_bytes (hHost : host.GivesFlatReasons) {address size : Nat} :
    (bytes address size).EndsFlat host fun _ => True := by
  unfold bytes
  split
  · constructor
    · exact fun _ _ _ => trivial
    · intro past e hFails
      cases hResponse : host past ⟨address, size⟩ with
      | error fault =>
          simp only [run, hResponse] at hFails
          cases hFails
          exact AccessFault.flat_message (hHost past _ fault hResponse)
      | ok found =>
          simp only [run, hResponse] at hFails
          split at hFails
          · cases hFails
          · cases hFails
            apply AccessFault.flat_message
            simp only [flat_append, Numeral.flat_decimal, and_true]
            decide
  · apply EndsFlat.failed
    apply AccessFault.flat_message
    show Flat "range wraps around the address space"
    decide

end Inquiry

open Inquiry

/-- An image has one reason only. -/
theorem MemoryImage.givesFlatReasons (image : MemoryImage) : image.host.GivesFlatReasons := by
  intro past request fault hFault
  change image.respond request = .error fault at hFault
  unfold respond at hFault
  split at hFault
  · cases hFault
  · cases hFault
    show Flat "address range is not mapped"
    decide

namespace Architecture

variable {host : Host} {arch : Architecture} {address : Nat}

theorem endsFlat_offsetAddress {base offset size : Nat} :
    (offsetAddress base offset size).EndsFlat host fun _ => True := by
  unfold offsetAddress
  split
  · exact .pure trivial
  · apply EndsFlat.failed
    apply AccessFault.flat_message
    simp only [flat_append, Numeral.flat_hex, and_true]
    decide

theorem endsFlat_decodeUnsigned (bytes : Bytes) :
    (arch.decodeUnsigned bytes).EndsFlat host fun _ => True := by
  unfold decodeUnsigned
  split
  · exact .pure trivial
  · exact .stopped

variable (hHost : host.GivesFlatReasons)

include hHost

theorem endsFlat_readWord : (arch.readWord address).EndsFlat host fun _ => True :=
  (endsFlat_bytes hHost).bind fun _ _ => endsFlat_decodeUnsigned _

theorem endsFlat_readWords {count : Nat} :
    (arch.readWords address count).EndsFlat host fun _ => True :=
  endsFlat_natural.bind fun _ _ => (endsFlat_bytes hHost).bind fun _ _ =>
    .forEach endsFlat_decodeUnsigned _

theorem endsFlat_readFloatBits : (arch.readFloatBits address).EndsFlat host fun _ => True := by
  apply (endsFlat_bytes hHost).bind
  intro bytes _
  split
  · exact .pure trivial
  · exact .stopped

end Architecture

namespace ObjectRef

variable {host : Host} {object : ObjectRef}

theorem endsFlat_inconsistent {α : Type} {post : α → Prop} {kind : Inconsistency} :
    (object.inconsistent kind : Inquiry α).EndsFlat host post :=
  .failed (Error.flat_message_decode _ _)

theorem endsFlat_expectSmallInt {word : Nat} :
    (object.expectSmallInt word).EndsFlat host fun _ => True := by
  unfold expectSmallInt
  split
  · exact endsFlat_integer
  · exact endsFlat_inconsistent

theorem endsFlat_checkPayloadSize {size : Nat} :
    (object.checkPayloadSize size).EndsFlat host fun _ => True := by
  unfold checkPayloadSize
  split
  · exact endsFlat_inconsistent
  · exact .pure trivial

theorem endsFlat_dataExtent {stored fixedWords : Nat} :
    (object.dataExtent stored fixedWords).EndsFlat host fun _ => True := by
  unfold dataExtent
  split
  · exact endsFlat_inconsistent
  · exact .pure trivial

theorem endsFlat_checkDataSize {stored fixedWords dataSize : Nat} :
    (object.checkDataSize stored fixedWords dataSize).EndsFlat host fun _ => True := by
  apply endsFlat_dataExtent.bind
  intro extent _
  have hFits : (object.checkFitsExtent dataSize extent).EndsFlat host fun _ => True := by
    unfold checkFitsExtent
    split
    · exact endsFlat_inconsistent
    · exact .pure trivial
  exact hFits.bind fun _ _ => endsFlat_checkPayloadSize

variable (hHost : host.GivesFlatReasons)

include hHost

theorem endsFlat_readWord {offset : Nat} : (object.readWord offset).EndsFlat host fun _ => True :=
  Architecture.endsFlat_offsetAddress.bind fun _ _ => Architecture.endsFlat_readWord hHost

theorem endsFlat_readWords {offset count : Nat} :
    (object.readWords offset count).EndsFlat host fun _ => True :=
  endsFlat_natural.bind fun _ _ => Architecture.endsFlat_offsetAddress.bind fun _ _ =>
    Architecture.endsFlat_readWords hHost

theorem endsFlat_readBytes {offset size : Nat} :
    (object.readBytes offset size).EndsFlat host fun _ => True :=
  Architecture.endsFlat_offsetAddress.bind fun _ _ => endsFlat_bytes hHost

end ObjectRef

/-- Every field has a flat name, and it is unavailable only if an error becomes of it. -/
structure Fields.EndFlat (host : Host) (fields : Fields) : Prop where
  name : ∀ index, Flat (fields.name index)
  value : ∀ index, (fields.value index).EndsFlat host fun value => value.isUnavailable = false

namespace Fields

variable {host : Host}

theorem endFlat_none : none.EndFlat host := by
  have hName : Flat "" := by decide
  exact ⟨fun _ => hName, fun _ => .stopped⟩

theorem endFlat_one {name : String} {value : Inquiry FieldValue} (hName : Flat name)
    (hValue : value.EndsFlat host fun value => value.isUnavailable = false) :
    (one name value).EndFlat host :=
  ⟨fun _ => hName, fun _ => hValue⟩

theorem endFlat_known {name : String} {value : FieldValue} (hName : Flat name)
    (hValue : value.isUnavailable = false) : (known name value).EndFlat host :=
  endFlat_one hName (.pure hValue)

theorem EndFlat.append {first second : Fields} (hFirst : first.EndFlat host)
    (hSecond : second.EndFlat host) : (first ++ second).EndFlat host := by
  constructor
  · intro index
    change Flat (if index < first.count then _ else _)
    split
    · exact hFirst.name _
    · exact hSecond.name _
  · intro index
    change Inquiry.EndsFlat host _ (if index < first.count then _ else _)
    split
    · exact hFirst.value _
    · exact hSecond.value _

/-- The error of a field that is unavailable is flat as well. -/
theorem EndFlat.field {fields : Fields} (h : fields.EndFlat host) (index : Nat) :
    (fields.field index).EndsFlat host fun field => Flat field.name ∧ Flat field.value.display := by
  constructor
  · intro past field hReturn
    rw [run_field] at hReturn
    cases hValue : ((fields.value index).run host past).outcome with
    | ok value =>
        rw [hValue] at hReturn
        cases hReturn
        exact ⟨h.name index, FieldValue.flat_display ((h.value index).value past value hValue)⟩
    | error failure =>
        rw [hValue] at hReturn
        cases failure with
        | error e =>
            cases hReturn
            have hMessage := (h.value index).error past e hValue
            exact ⟨h.name index, FieldValue.flat_display_unavailable hMessage⟩
        | defect found => cases hReturn
  · intro past e hFails
    rw [run_field] at hFails
    cases hValue : ((fields.value index).run host past).outcome with
    | ok value =>
        rw [hValue] at hFails
        cases hFails
    | error failure =>
        rw [hValue] at hFails
        cases failure <;> cases hFails

theorem EndFlat.flat_of_show {fields : Fields} (h : fields.EndFlat host) {list : List Field}
    (hShow : fields.Show host list) : ∀ field ∈ list, Flat field.name ∧ Flat field.value.display := by
  intro field hMem
  obtain ⟨index, hIndex, rfl⟩ := List.getElem_of_mem hMem
  exact (h.field index).value [] _ (hShow.field index hIndex [])

end Fields

/-- The value, the fields and all errors of the decoder are told in flat texts. -/
structure Decoder.EndsFlat (host : Host) (object : ObjectRef) (decoder : Decoder) : Prop where
  value : (decoder.value object).EndsFlat host fun value => ∀ text ∈ value, Flat text
  fields : (decoder.fields object).EndsFlat host (Fields.EndFlat host)

namespace Decoder

variable {host : Host} {object : ObjectRef}

theorem flat_elementName (index : Nat) : Flat (elementName index) := by
  simp only [elementName, flat_append, Numeral.flat_decimal, and_true]
  decide

theorem flat_slotName (index : Nat) : Flat (slotName index) := by
  simp only [slotName, flat_append, Numeral.flat_decimal, and_true]
  decide

theorem flat_descriptorFieldName (index : Nat) : Flat (descriptorFieldNames.getD index "") := by
  have hNames : ∀ name ∈ descriptorFieldNames, Flat name := by decide
  rw [List.getD_eq_getElem?_getD]
  cases hName : descriptorFieldNames[index]? with
  | none => decide
  | some name => exact hNames name (List.mem_of_getElem? hName)

theorem flat_of_mem_some {text : String} (h : Flat text) : ∀ other ∈ some text, Flat other :=
  fun _ hMem => Option.some.inj hMem ▸ h

theorem nil_endsFlat : nil.EndsFlat host object :=
  ⟨.pure (flat_of_mem_some (by decide)), .pure Fields.endFlat_none⟩

theorem endsFlat_elementCount {stored : Nat} :
    (elementCount object stored).EndsFlat host fun _ => True := by
  apply ObjectRef.endsFlat_expectSmallInt.bind
  intro count _
  split
  · exact ObjectRef.endsFlat_inconsistent
  · apply endsFlat_integer.bind
    intro length _
    dsimp only
    split
    · exact ObjectRef.endsFlat_checkPayloadSize.bind fun _ _ => .pure trivial
    · exact ObjectRef.endsFlat_inconsistent

theorem endsFlat_decodeUtf8 {bytes : Bytes} :
    (decodeUtf8 object bytes).EndsFlat host fun _ => True := by
  unfold decodeUtf8
  split
  · exact .pure trivial
  · exact ObjectRef.endsFlat_inconsistent

theorem endsFlat_decodeElement (element : Bytes) :
    (do decodeCodePoint object (← object.arch.decodeUnsigned element)).EndsFlat host
      fun _ => True := by
  apply (Architecture.endsFlat_decodeUnsigned element).bind
  intro code _
  unfold decodeCodePoint
  split
  · exact .pure trivial
  · exact ObjectRef.endsFlat_inconsistent

variable (hHost : host.GivesFlatReasons)

include hHost

theorem endsFlat_readBool : (readBool object).EndsFlat host fun _ => True := by
  apply (ObjectRef.endsFlat_readBytes hHost).bind
  intro bytes _
  split
  · exact .pure trivial
  · exact .stopped

theorem endsFlat_readFloat : (readFloat object).EndsFlat host fun _ => True :=
  Architecture.endsFlat_offsetAddress.bind fun _ _ =>
    (Architecture.endsFlat_readFloatBits hHost).bind fun _ _ => .pure trivial

theorem bool_endsFlat : bool.EndsFlat host object where
  value := (endsFlat_readBool hHost).map fun value => flat_of_mem_some (FieldValue.flat_displayBool value)
  fields := .pure (Fields.endFlat_one (by decide) ((endsFlat_readBool hHost).map fun _ => rfl))

theorem float_endsFlat : float.EndsFlat host object where
  value := (endsFlat_readFloat hHost).map fun value => flat_of_mem_some value.flat_text
  fields := .pure (Fields.endFlat_one (by decide) ((endsFlat_readFloat hHost).map fun _ => rfl))

/-- A word of the payload, as it stands. -/
theorem endsFlat_bodyWord {index : Nat} {view : Nat → FieldValue}
    (hView : ∀ word, (view word).isUnavailable = false) :
    (do let word ← object.readWord (← object.bodyWordOffset index)
        return view word : Inquiry FieldValue).EndsFlat host fun value =>
          value.isUnavailable = false :=
  endsFlat_natural.bind fun _ _ => (ObjectRef.endsFlat_readWord hHost).map hView

theorem elements_endFlat {length : Nat} : (elements object length).EndFlat host :=
  ⟨flat_elementName, fun _ => endsFlat_bodyWord hHost fun _ => rfl⟩

theorem endsFlat_readElementCount : (readElementCount object).EndsFlat host fun _ => True :=
  (ObjectRef.endsFlat_readWord hHost).bind fun _ _ => endsFlat_elementCount

theorem slots_endsFlat : slots.EndsFlat host object where
  value := (endsFlat_readElementCount hHost).map fun _ => flat_of_mem_some (flat_elementName _)
  fields := (endsFlat_readElementCount hHost).map fun _ => elements_endFlat hHost

theorem endsFlat_readArrayStorage : (readArrayStorage object).EndsFlat host fun _ => True := by
  apply (ObjectRef.endsFlat_readWords hHost).bind
  intro words _
  split
  · split
    · apply (Architecture.endsFlat_readWords hHost).bind
      intro stored _
      split
      · apply endsFlat_elementCount.bind
        intro capacity _
        split
        · exact ObjectRef.endsFlat_inconsistent
        · exact .pure trivial
      · exact .stopped
    · exact ObjectRef.endsFlat_inconsistent
  · exact .stopped

theorem array_endsFlat : array.EndsFlat host object where
  value := by
    have hLength : (readArrayLength object).EndsFlat host fun _ => True :=
      endsFlat_natural.bind fun _ _ => ObjectRef.endsFlat_readWord hHost
    exact hLength.map fun _ => flat_of_mem_some (flat_elementName _)
  fields := (endsFlat_readArrayStorage hHost).map fun _ => elements_endFlat hHost

theorem typeDescriptor_endsFlat : typeDescriptor.EndsFlat host object where
  value := .pure (by simp)
  fields := by
    apply EndsFlat.pure
    constructor
    · exact flat_descriptorFieldName
    · intro index
      apply endsFlat_natural.bind
      intro offset _
      apply (ObjectRef.endsFlat_readWord hHost).bind
      intro word _
      split
      · exact .pure rfl
      · exact .pure rfl

theorem endsFlat_readSlotCount {slots : PartSize} :
    (readSlotCount object slots).EndsFlat host fun _ => True := by
  have hCheck (count : Nat) :
      (if count * object.wordSize < machineBound then do
          let _ ← object.checkPayloadSize (count * object.wordSize)
          return count
        else object.inconsistent (.implausibleSize count) : Inquiry Nat).EndsFlat host
          fun _ => True := by
    split
    · exact ObjectRef.endsFlat_checkPayloadSize.bind fun _ _ => .pure trivial
    · exact ObjectRef.endsFlat_inconsistent
  cases slots with
  | fixed count => exact hCheck count
  | extendable =>
      apply (ObjectRef.endsFlat_readWord hHost).bind
      intro stored _
      apply ObjectRef.endsFlat_expectSmallInt.bind
      intro count _
      split
      · exact ObjectRef.endsFlat_inconsistent
      · exact hCheck count.toNat

theorem endsFlat_locateBytes {bytes : PartSize} {slotCount : Nat} :
    (locateBytes object bytes slotCount).EndsFlat host fun _ => True := by
  apply endsFlat_natural.bind
  intro offset _
  cases bytes with
  | fixed size => exact ObjectRef.endsFlat_checkPayloadSize.bind fun _ _ => .pure trivial
  | extendable =>
      apply (ObjectRef.endsFlat_readWord hHost).bind
      intro total _
      split
      · exact ObjectRef.endsFlat_inconsistent
      · exact endsFlat_natural.bind fun _ _ => ObjectRef.endsFlat_checkPayloadSize.bind fun _ _ =>
          .pure trivial

theorem rawSlots_endFlat {count : Nat} : (rawSlots object count).EndFlat host :=
  ⟨flat_slotName, fun _ => endsFlat_bodyWord hHost fun _ => rfl⟩

theorem rawBytes_endFlat {part : BytesPart} : (rawBytes object part).EndFlat host := by
  unfold rawBytes
  split
  · exact Fields.endFlat_none
  · exact Fields.endFlat_one (by decide) ((ObjectRef.endsFlat_readBytes hHost).map fun _ => rfl)

theorem byLayout_endsFlat : byLayout.EndsFlat host object where
  value := .pure (by simp)
  fields := by
    have hLayout : (TypeLayout.read object.arch object.header.typeAddress).EndsFlat host
        fun _ => True := by
      apply Architecture.endsFlat_offsetAddress.bind
      intro address _
      apply (Architecture.endsFlat_readWords hHost).bind
      intro words _
      split
      · exact .pure trivial
      · exact .stopped
    apply hLayout.bind
    intro layout _
    apply (endsFlat_readSlotCount hHost).bind
    intro slotCount _
    apply (endsFlat_locateBytes hHost).bind
    intro part _
    exact .pure ((rawSlots_endFlat hHost).append (rawBytes_endFlat hHost))

theorem endsFlat_readSymbolText {stored : Nat} :
    (readSymbolText object stored).EndsFlat host fun _ => True :=
  ObjectRef.endsFlat_dataExtent.bind fun _ _ => ObjectRef.endsFlat_checkPayloadSize.bind fun _ _ =>
    endsFlat_natural.bind fun _ _ => (ObjectRef.endsFlat_readBytes hHost).bind fun _ _ =>
      endsFlat_decodeUtf8

theorem symbol_endsFlat : symbol.EndsFlat host object where
  value := (ObjectRef.endsFlat_readWord hHost).bind fun _ _ =>
    (endsFlat_readSymbolText hHost).map fun _ => flat_of_mem_some (Quoted.flat_quote _)
  fields := by
    apply (ObjectRef.endsFlat_readWords hHost).bind
    intro words _
    split
    · apply EndsFlat.pure
      apply ((Fields.endFlat_known (by decide) rfl).append
        (Fields.endFlat_known (by decide) rfl)).append
      exact Fields.endFlat_one (by decide) ((endsFlat_readSymbolText hHost).map fun _ => rfl)
    · exact .stopped

theorem endsFlat_readTextLayout : (readTextLayout object).EndsFlat host fun _ => True := by
  apply (ObjectRef.endsFlat_readWords hHost).bind
  intro words _
  split
  · exact endsFlat_natural.bind fun _ _ => ObjectRef.endsFlat_checkDataSize.bind fun _ _ =>
      .pure trivial
  · exact .stopped

theorem endsFlat_readText {packed : PackedLength} {size : Nat} :
    (readText object packed size).EndsFlat host fun _ => True := by
  apply endsFlat_natural.bind
  intro offset _
  apply (ObjectRef.endsFlat_readBytes hHost).bind
  intro data _
  split
  · exact endsFlat_decodeUtf8
  · exact (EndsFlat.forEach endsFlat_decodeElement _).bind fun _ _ => .pure trivial

theorem string_endsFlat : string.EndsFlat host object where
  value := (endsFlat_readTextLayout hHost).bind fun _ _ =>
    (endsFlat_readText hHost).map fun _ => flat_of_mem_some (Quoted.flat_quote _)
  fields := by
    apply (endsFlat_readTextLayout hHost).bind
    intro layout _
    apply EndsFlat.pure
    apply ((Fields.endFlat_known (by decide) rfl).append
      (Fields.endFlat_known (by decide) rfl)).append
    exact Fields.endFlat_one (by decide) ((endsFlat_readText hHost).map fun _ => rfl)

theorem endsFlat_readBytesLayout : (readBytesLayout object).EndsFlat host fun _ => True := by
  apply (ObjectRef.endsFlat_readWords hHost).bind
  intro words _
  split
  · exact ObjectRef.endsFlat_checkDataSize
  · exact .stopped

theorem endsFlat_readData {size : Nat} : (readData object size).EndsFlat host fun _ => True :=
  endsFlat_natural.bind fun _ _ => ObjectRef.endsFlat_readBytes hHost

theorem bytes_endsFlat : bytes.EndsFlat host object where
  value := (endsFlat_readBytesLayout hHost).bind fun _ _ =>
    (endsFlat_readData hHost).map fun _ => flat_of_mem_some (Escaped.flat_quote _)
  fields := by
    apply (endsFlat_readBytesLayout hHost).bind
    intro size _
    apply EndsFlat.pure
    apply (Fields.endFlat_known (by decide) rfl).append
    exact Fields.endFlat_one (by decide) ((endsFlat_readData hHost).map fun _ => rfl)

theorem endsFlat_of_mem_standard {decoder : Decoder} (hMem : decoder ∈ standard)
    (object : ObjectRef) : decoder.EndsFlat host object := by
  rcases eq_of_mem_standard hMem with rfl | rfl | rfl | rfl | rfl | rfl | rfl | rfl | rfl | rfl
  · exact bool_endsFlat hHost
  · exact float_endsFlat hHost
  · exact nil_endsFlat
  · exact array_endsFlat hHost
  · exact slots_endsFlat hHost
  · exact symbol_endsFlat hHost
  · exact string_endsFlat hHost
  · exact bytes_endsFlat hHost
  · exact typeDescriptor_endsFlat hHost
  · exact byLayout_endsFlat hHost

end Decoder

end HeapInspector
