import HeapInspector.Proofs.Conduct.Introspection
import HeapInspector.Proofs.Results.Inquiry
import HeapInspector.Rendering

/-! Text is always made. Whatever a host responds, and at every depth, rendering replaces what cannot be
read by a text that tells why, and comes to an end. Hosts may change their minds between two reads, so
nothing is known of a value but that the inquiry before may return it. Decoders may be of any kind, as long
as they keep their promises. -/
namespace HeapInspector

namespace Inquiry

variable {α β : Type} {i : Inquiry α}

theorem AlwaysReturns.pure (value : α) : (Pure.pure value : Inquiry α).AlwaysReturns :=
  fun _ _ => ⟨value, rfl⟩

/-- The second part has to return only for what the first part may return. -/
theorem AlwaysReturns.bind {next : α → Inquiry β} (h : i.AlwaysReturns)
    (hNext : ∀ value, i.MayReturn value → (next value).AlwaysReturns) :
    (i >>= next).AlwaysReturns := by
  intro host past
  obtain ⟨value, hValue⟩ := h host past
  obtain ⟨later, hLater⟩ := exists_run_bind next hValue
  obtain ⟨result, hResult⟩ := hNext value ⟨host, past, hValue⟩ host later
  exact ⟨result, hLater.trans hResult⟩

theorem AlwaysReturns.forEach {f : α → Inquiry β} {list : List α}
    (h : ∀ a ∈ list, (f a).AlwaysReturns) : (Inquiry.forEach f list).AlwaysReturns := by
  induction list with
  | nil => exact .pure []
  | cons first rest ih =>
      apply (h first List.mem_cons_self).bind
      intro b _
      have hRest := ih fun a hMem => h a (List.mem_cons_of_mem _ hMem)
      exact hRest.bind fun _ _ => .pure _

/-- What never stops ends in a value or in an error. -/
theorem NeverStops.exists_result (h : i.NeverStops) (host : Host) (past : List Request) :
    ∃ result : Except Error α, (i.run host past).outcome = result.mapError Failure.error := by
  cases hEnd : (i.run host past).outcome with
  | ok value => exact ⟨.ok value, rfl⟩
  | error failure =>
      cases failure with
      | error e => exact ⟨.error e, rfl⟩
      | defect d => exact absurd hEnd (h host past d)

theorem NeverStops.attempt (h : i.NeverStops) : i.attempt.AlwaysReturns := by
  intro host past
  obtain ⟨result, hResult⟩ := h.exists_result host past
  exact ⟨result, by rw [run_attempt hResult]⟩

theorem NeverStops.mayReturn_of_attempt (h : i.NeverStops) {value : α}
    (hValue : i.attempt.MayReturn (.ok value)) : i.MayReturn value := by
  obtain ⟨host, past, hReturn⟩ := hValue
  obtain ⟨result, hResult⟩ := h.exists_result host past
  rw [run_attempt hResult] at hReturn
  cases hReturn
  exact ⟨host, past, hResult⟩

/-- The second part takes care of the errors of the first. -/
theorem NeverStops.attempt_bind {next : Except Error α → Inquiry β} (h : i.NeverStops)
    (hOk : ∀ value, i.MayReturn value → (next (.ok value)).AlwaysReturns)
    (hError : ∀ e, (next (.error e)).AlwaysReturns) : (i.attempt >>= next).AlwaysReturns := by
  apply h.attempt.bind
  intro result hResult
  cases result with
  | ok value => exact hOk value (h.mayReturn_of_attempt hResult)
  | error e => exact hError e

end Inquiry

open Inquiry

variable {i : Introspector} {d : ObjectDescription} {depth : Nat}

/-- Nothing that the decoder does with the object reaches a defect. -/
structure Decoder.NeverStops (decoder : Decoder) (object : ObjectRef) : Prop where
  value : (decoder.value object).NeverStops
  fields : (decoder.fields object).NeverStops
  field : ∀ fields, (decoder.fields object).MayReturn fields →
    ∀ index < fields.count, (fields.value index).NeverStops

theorem Decoder.Orderly.neverStops {conduct : Conduct} {decoder : Decoder} {object : ObjectRef}
    (h : decoder.Orderly conduct object) : decoder.NeverStops object where
  value := h.value.neverStops
  fields := h.fields.neverStops
  field fields hFields index hIndex := by
    have hLocated : fields.Orderly conduct := h.fields.post_of_mayReturn hFields
    exact (hLocated.value index hIndex).neverStops

namespace Registry

/-- No decoder of the registry reaches a defect, whatever object it is given. -/
def NeverStops (registry : Registry) : Prop :=
  ∀ entry ∈ registry.entries, ∀ object, entry.2.NeverStops object

theorem IsStandard.neverStops {registry : Registry} (h : registry.IsStandard) : registry.NeverStops :=
  fun entry hMem object =>
    (Decoder.orderly_of_mem_standard Conduct.payloads_allows (h entry hMem) object).neverStops

/-- The decoder by layout, which is there without being registered, keeps its promises as well. -/
theorem NeverStops.lookup {registry : Registry} (h : registry.NeverStops) (name : Option String)
    (object : ObjectRef) : (registry.lookup name).NeverStops object := by
  rcases registry.lookup_eq name with hLayout | ⟨entry, hMem, hEntry⟩
  · rw [hLayout]
    exact (Decoder.byLayout_orderly (Conduct.payloads_allows object)).neverStops
  · rw [hEntry]
    exact h entry hMem object

end Registry

theorem Fields.field_alwaysReturns {fields : Fields} {index : Nat}
    (h : (fields.value index).NeverStops) : (fields.field index).AlwaysReturns := by
  unfold field
  apply h.attempt_bind
  · intro value _
    exact .pure _
  · intro e
    exact .pure _

namespace ObjectDescription

theorem renderLine_alwaysReturns (h : d.decoder.NeverStops d.object) : d.renderLine.AlwaysReturns := by
  unfold renderLine
  apply NeverStops.attempt_bind h.value
  · intro value _
    cases value with
    | none => exact .pure _
    | some text => exact .pure _
  · intro e
    exact .pure _

/-- Lines of fields are made if whatever stands behind the names is. -/
theorem renderFieldLines_alwaysReturns {expand : FieldValue → Inquiry Rendering} {level : Nat}
    (h : d.decoder.NeverStops d.object) (hExpand : ∀ value, (expand value).AlwaysReturns) :
    (d.renderFieldLines expand level).AlwaysReturns := by
  unfold renderFieldLines
  apply NeverStops.attempt_bind h.fields
  · intro fields hFields
    have hLines : (forEach (fun index => do (← fields.field index).renderLine expand level)
        (List.range fields.count)).AlwaysReturns := by
      apply AlwaysReturns.forEach
      intro index hMem
      have hValue := h.field fields hFields index (List.mem_range.mp hMem)
      apply (Fields.field_alwaysReturns hValue).bind
      intro field _
      exact (hExpand field.value).bind fun _ _ => .pure _
    exact hLines.bind fun _ _ => .pure _
  · intro e
    exact .pure _

end ObjectDescription

namespace Introspector

variable (hRegistry : i.registry.NeverStops)

include hRegistry

theorem neverStops_of_mayReturn {address : Nat} (h : (i.describeObject address).MayReturn d) :
    d.decoder.NeverStops d.object := by
  obtain ⟨_, name, hName⟩ := (i.meets_describeObject_payloads address).post_of_mayReturn h
  rw [hName]
  exact hRegistry.lookup name d.object

/-- The depth is what ends the expansion: memory may have references in a circle. -/
theorem renderFields_alwaysReturns (level : Nat) (h : d.decoder.NeverStops d.object) :
    (i.renderFields depth level d).AlwaysReturns := by
  induction depth generalizing level d with
  | zero => exact ObjectDescription.renderFieldLines_alwaysReturns h fun _ => .pure _
  | succ depth ih =>
      cases depth with
      | zero => exact ObjectDescription.renderFieldLines_alwaysReturns h fun _ => .pure _
      | succ depth =>
          apply ObjectDescription.renderFieldLines_alwaysReturns h
          intro value
          split
          · rename_i address _
            apply NeverStops.attempt_bind (i.meets_describeObject_payloads address).neverStops
            · intro nested hNested
              have hNever := neverStops_of_mayReturn hRegistry hNested
              apply (ObjectDescription.renderLine_alwaysReturns hNever).bind
              intro line _
              exact (ih (level + 1) hNever).bind fun _ _ => .pure _
            · intro e
              exact .pure _
          · exact .pure _

theorem renderObject_alwaysReturns (depth : Nat) (h : d.decoder.NeverStops d.object) :
    (i.renderObject depth d).AlwaysReturns := by
  unfold renderObject
  apply (ObjectDescription.renderLine_alwaysReturns h).bind
  intro line _
  split
  · exact .pure _
  · exact (renderFields_alwaysReturns hRegistry 1 h).bind fun _ _ => .pure _

/-- What describing a word may return keeps its promises, if it is an object. -/
theorem neverStops_of_describe {word : Nat} (h : (i.describe word).MayReturn (.object d)) :
    d.decoder.NeverStops d.object := by
  obtain ⟨name, hName⟩ := (i.meets_describe Conduct.payloads_allows word).post_of_mayReturn h d rfl
  rw [hName]
  exact hRegistry.lookup name d.object

variable {word : Nat} {description : Description}

theorem render_alwaysReturns (depth : Nat) (h : (i.describe word).MayReturn description) :
    (i.render depth description).AlwaysReturns := by
  cases description with
  | null => exact .pure _
  | smallInt value => exact .pure _
  | object d => exact renderObject_alwaysReturns hRegistry depth (neverStops_of_describe hRegistry h)

theorem renderOnlyFields_alwaysReturns (depth : Nat) (h : (i.describe word).MayReturn description) :
    (i.renderOnlyFields depth description).AlwaysReturns := by
  cases description with
  | null => exact .pure _
  | smallInt value => exact .pure _
  | object d => exact renderFields_alwaysReturns hRegistry 0 (neverStops_of_describe hRegistry h)

end Introspector

end HeapInspector
