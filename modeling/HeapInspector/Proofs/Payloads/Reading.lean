import HeapInspector.Proofs.Dialogue.Introspection
import HeapInspector.Proofs.Rendering.Returns

/-! What is made of a payload, read by read and under every host. Checks ask for nothing, so each of them
is a plain answer; behind them stands one read, and what it comes to is all that a field or a value is
made of. Hosts may answer differently each time, so everything is said of a run and of what was asked
before it. -/
namespace HeapInspector

open Inquiry

variable {α β γ : Type} {host : Host} {past : List Request}

namespace Inquiry

/-- A failure behind the first part is the failure of the whole. -/
theorem outcome_of_rejected {i : Inquiry α} {next : α → Inquiry β} {value : α} {failure : Failure}
    (h : (i.run host past).outcome = .ok value) (hNext : next value = .fail failure) :
    ((i >>= next).run host past).outcome = .error failure := by
  rw [run_bind_of_ok next h, hNext]
  rfl

theorem requests_bytes {address size : Nat} : ((bytes address size).run host past).requests =
    if address + size < machineBound then [⟨address, size⟩] else [] := by
  unfold bytes
  split
  · cases hResponse : host past ⟨address, size⟩ with
    | error fault => simp only [run, hResponse]; rfl
    | ok data =>
        by_cases hLength : data.length = size
        · simp only [run, hResponse, if_pos hLength]
          rfl
        · simp only [run, hResponse, if_neg hLength]
          rfl
  · rfl

/-- Going through a list to its end. Each result is that of its own member, whatever the others have
come to before. -/
theorem exists_run_forEach {f : α → Inquiry β} {list : List α} (h : ∀ a ∈ list, (f a).AlwaysReturns)
    (host : Host) (past : List Request) :
    ∃ results, ((forEach f list).run host past).outcome = .ok results ∧
      List.Forall₂ (fun a b => ∃ later, ((f a).run host later).outcome = .ok b) list results := by
  induction list generalizing past with
  | nil => exact ⟨[], rfl, .nil⟩
  | cons first rest ih =>
      obtain ⟨b, hFirst⟩ := h first List.mem_cons_self host past
      obtain ⟨later, hLater⟩ := exists_run_bind
        (fun b => do let rest ← forEach f rest; return b :: rest) hFirst
      obtain ⟨results, hRest, hEach⟩ := ih (fun a hMem => h a (List.mem_cons_of_mem _ hMem)) later
      refine ⟨b :: results, ?_, .cons ⟨past, hFirst⟩ hEach⟩
      rw [forEach, hLater, run_bind_pure, hRest]
      rfl

end Inquiry

namespace ObjectRef

variable {object : ObjectRef} {offset size index : Nat}

/-- The verdict on data that has been read. -/
def judge (object : ObjectRef) : Except Inconsistency α → Inquiry α
  | .ok value => .done value
  | .error kind => object.inconsistent kind

/-- The inquiry reads the range of the object, all of it, once, and nothing besides, unless the range
leaves the address space. Its outcome is the meaning of the bytes, or the failure of the read. -/
structure Interprets (object : ObjectRef) (offset size : Nat)
    (meaning : Bytes → Except Inconsistency α) (i : Inquiry α) : Prop where
  asks : ∀ host past, (i.run host past).requests =
    if object.address + offset + size < machineBound then [⟨object.address + offset, size⟩] else []
  whole : ∀ host past data, ((object.readBytes offset size).run host past).outcome = .ok data →
    data.length = size
  outcome : ∀ host past, (i.run host past).outcome =
    ((object.readBytes offset size).run host past).outcome.bind fun data =>
      (meaning data).mapError fun kind => .error (.decode object.address kind)

theorem meets_anyBytes :
    (object.readBytes offset size).Meets ⟨fun _ => True, fun _ => True⟩ (·.length = size) 1 :=
  meets_readBytes (fun _ => trivial) fun _ => trivial

/-- A word that is read is one of the width. -/
theorem meets_anyWord :
    (object.readWord offset).Meets ⟨fun _ => True, fun _ => True⟩ (· < object.arch.width.modulus) 1 :=
  meets_readWord (fun _ => trivial) fun _ => trivial

theorem requests_readBytes : ((object.readBytes offset size).run host past).requests =
    if object.address + offset + size < machineBound then [⟨object.address + offset, size⟩]
    else [] := by
  unfold readBytes addressAt Architecture.offsetAddress
  by_cases hFits : object.address + offset + size < machineBound
  · rw [if_pos hFits, bind_eq, Inquiry.bind, requests_bytes]
  · rw [if_neg hFits, if_neg hFits]
    rfl

/-- A verdict asks for nothing. -/
theorem run_bind_judge (object : ObjectRef) (meaning : β → Except Inconsistency α) (i : Inquiry β)
    (host : Host) (past : List Request) :
    (i >>= fun found => object.judge (meaning found)).run host past =
      ⟨(i.run host past).outcome.bind fun found =>
          (meaning found).mapError fun kind => .error (.decode object.address kind),
        (i.run host past).trace⟩ := by
  induction i generalizing past with
  | done found =>
      change (object.judge (meaning found)).run host past = _
      cases hMeaning : meaning found with
      | ok value => simp [judge, run, Except.bind, hMeaning, Except.mapError]
      | error kind =>
          simp [judge, inconsistent, Inquiry.error, run, Except.bind, hMeaning, Except.mapError]
  | fail failure => rfl
  | read request resume ih =>
      have hRest := ih (host past request) (request :: past)
      simp only [bind_eq] at hRest
      simp only [bind_eq, Inquiry.bind, run, hRest]

/-- One read with a verdict on what it gives. -/
theorem interprets_of_eq {meaning : Bytes → Except Inconsistency α} {i : Inquiry α}
    (h : i = object.readBytes offset size >>= fun data => object.judge (meaning data)) :
    object.Interprets offset size meaning i where
  asks host past := by
    rw [h, run_bind_judge]
    exact requests_readBytes
  whole host past data hData := meets_anyBytes.post_of_mayReturn ⟨host, past, hData⟩
  outcome host past := by rw [h, run_bind_judge]

theorem Interprets.neverStops {meaning : Bytes → Except Inconsistency α} {i : Inquiry α}
    (h : object.Interprets offset size meaning i) : i.NeverStops := by
  intro host past defect
  have hRead : (object.readBytes offset size).Meets _ _ _ := meets_anyBytes
  obtain ⟨result, hResult, -⟩ := hRead.exists_result host past
  rw [h.outcome, hResult]
  cases result with
  | error e => simp [Except.mapError, Except.bind]
  | ok data => cases hMeaning : meaning data <;> simp [Except.mapError, Except.bind, hMeaning]

/-- What the inquiry makes of the bytes, once they are there. -/
theorem Interprets.outcome_of_data {meaning : Bytes → Except Inconsistency α} {i : Inquiry α}
    (h : object.Interprets offset size meaning i) {data : Bytes} {value : α}
    (hData : ((object.readBytes offset size).run host past).outcome = .ok data)
    (hMeaning : meaning data = .ok value) : (i.run host past).outcome = .ok value := by
  rw [h.outcome, hData]
  simp [Except.bind, hMeaning, Except.mapError]

/-- An offset of a word within a payload is known without asking. -/
theorem bodyWordOffset_eq (h : index * object.wordSize ≤ maxPayloadSize) :
    object.bodyWordOffset index = .done (object.bodyOffset + index * object.wordSize) := by
  have hWord := object.wordSize_le
  have hHeader : object.bodyOffset = 2 * object.wordSize := rfl
  rw [bodyWordOffset, natural, if_pos]
  unfold maxPayloadSize at h
  unfold machineBound
  omega

theorem fixedWordOffset_eq (h : index ≤ 6) :
    object.bodyWordOffset index = .done (object.bodyOffset + index * object.wordSize) :=
  bodyWordOffset_eq ((Nat.mul_le_mul h object.wordSize_le).trans (by decide))

theorem expectSmallInt_eq {word : Nat} (hOdd : word % 2 = 1) (hFits : word < object.arch.width.modulus) :
    object.expectSmallInt word = .done (decodeSmallInt object.arch.width word) := by
  rw [expectSmallInt, Tagged.classify_of_odd hOdd hFits]
  exact if_pos (decodeSmallInt_fits object.arch.width word)

theorem expectSmallInt_eq_of_even {word : Nat} (hEven : word % 2 = 0)
    (hFits : word < object.arch.width.modulus) :
    object.expectSmallInt word = object.inconsistent (.notSmallInt word) := by
  unfold expectSmallInt
  by_cases hNull : word = 0
  · subst hNull
    rfl
  · rw [Tagged.classify_of_even hEven hNull hFits]

theorem checkPayloadSize_eq (h : size ≤ maxPayloadSize) : object.checkPayloadSize size = .done size :=
  if_neg (Nat.not_lt.mpr h)

theorem checkPayloadSize_eq_of_lt (h : maxPayloadSize < size) :
    object.checkPayloadSize size = object.inconsistent (.implausibleSize size) := if_pos h

section DataSize

variable {stored fixedWords : Nat}

theorem dataExtent_eq (h : fixedWords * object.wordSize ≤ stored) :
    object.dataExtent stored fixedWords = .done (stored - fixedWords * object.wordSize) :=
  if_neg (Nat.not_lt.mpr h)

theorem dataExtent_eq_of_lt (h : stored < fixedWords * object.wordSize) :
    object.dataExtent stored fixedWords = object.inconsistent (.implausibleSize stored) := if_pos h

theorem checkDataSize_eq_of_small (h : stored < fixedWords * object.wordSize) :
    object.checkDataSize stored fixedWords size = object.inconsistent (.implausibleSize stored) := by
  rw [checkDataSize, dataExtent_eq_of_lt h]
  rfl

variable (hStored : fixedWords * object.wordSize ≤ stored)

include hStored

theorem checkDataSize_eq_of_over (h : stored - fixedWords * object.wordSize < size) :
    object.checkDataSize stored fixedWords size = object.inconsistent
      (.lengthExceedsExtent size (stored - fixedWords * object.wordSize)) := by
  rw [checkDataSize, dataExtent_eq hStored, bind_eq, Inquiry.bind, checkFitsExtent, if_pos h]
  rfl

variable (hFits : size ≤ stored - fixedWords * object.wordSize)

include hFits

theorem checkDataSize_eq : object.checkDataSize stored fixedWords size = object.checkPayloadSize size := by
  rw [checkDataSize, dataExtent_eq hStored, bind_eq, Inquiry.bind, checkFitsExtent,
    if_neg (Nat.not_lt.mpr hFits)]
  rfl

end DataSize

end ObjectRef

/-- The value that a field is given for the result of its inquiry. -/
def FieldValue.ofResult : Except Error FieldValue → FieldValue
  | .ok value => value
  | .error e => .unavailable e

namespace Fields

variable {fields first second : Fields} {name : String} {wrap : α → FieldValue} {payload : Inquiry α}
  {front firstList secondList : List Field}

/-- Under every host the field asks for what the payload asks for, and shows what the payload comes to,
the error in the place of a value. -/
structure Presents (fields : Fields) (index : Nat) (name : String) (wrap : α → FieldValue)
    (payload : Inquiry α) : Prop where
  neverStops : payload.NeverStops
  run : ∀ host past (result : Except Error α),
    (payload.run host past).outcome = result.mapError Failure.error →
      (fields.field index).run host past =
        ⟨.ok ⟨name, .ofResult (result.map wrap)⟩, (payload.run host past).trace⟩

/-- The fields that are known as soon as they are located. -/
structure Known (fields : Fields) (list : List Field) : Prop where
  count : fields.count = list.length
  field : ∀ index, (h : index < list.length) → fields.field index = pure list[index]

/-- Fields that are known, and one behind them that presents the payload. -/
structure Announces (fields : Fields) (front : List Field) (name : String) (wrap : α → FieldValue)
    (payload : Inquiry α) : Prop where
  count : fields.count = front.length + 1
  known : ∀ index, (h : index < front.length) → fields.field index = pure front[index]
  last : fields.Presents front.length name wrap payload

theorem presents_of_value {index : Nat} (hName : fields.name index = name)
    (hValue : fields.value index = do return wrap (← payload)) (hNever : payload.NeverStops) :
    fields.Presents index name wrap payload where
  neverStops := hNever
  run host past result hResult := by
    subst hName
    rw [run_field, hValue, run_bind_pure, hResult]
    cases result with
    | ok value => rfl
    | error e => rfl

theorem Presents.alwaysReturns {index : Nat} (h : fields.Presents index name wrap payload) :
    (fields.field index).AlwaysReturns := by
  intro host past
  obtain ⟨result, hResult⟩ := h.neverStops.exists_result host past
  exact ⟨_, by rw [h.run host past result hResult]⟩

theorem known_known {value : FieldValue} : (known name value).Known [⟨name, value⟩] := by
  constructor
  · rfl
  · intro index hIndex
    have hZero : index = 0 := by simpa using hIndex
    subst hZero
    rfl

theorem Known.append (hFirst : first.Known firstList) (hSecond : second.Known secondList) :
    (first ++ second).Known (firstList ++ secondList) := by
  constructor
  · change first.count + second.count = _
    rw [hFirst.count, hSecond.count, List.length_append]
  · intro index hIndex
    rw [List.length_append] at hIndex
    rw [field_append, List.getElem_append, hFirst.count]
    split
    · rename_i hBefore
      exact hFirst.field index hBefore
    · rename_i hBehind
      exact hSecond.field (index - firstList.length) (by omega)

theorem Known.announces (h : first.Known front) (hNever : payload.NeverStops) :
    (first ++ one name (do return wrap (← payload))).Announces front name wrap payload where
  count := by
    change first.count + 1 = _
    rw [h.count]
  known index hIndex := by
    rw [field_append, h.count, if_pos hIndex]
    exact h.field index hIndex
  last := by
    apply presents_of_value _ _ hNever
    · change (if front.length < first.count then _ else name) = name
      rw [h.count, if_neg (Nat.lt_irrefl _)]
    · change (if front.length < first.count then _ else _) = _
      rw [h.count, if_neg (Nat.lt_irrefl _)]
      rfl

/-- Going through the fields, each of them is there, and none hangs on how the others have ended. -/
theorem exists_run_all (h : ∀ index < fields.count, (fields.field index).AlwaysReturns) (host : Host)
    (past : List Request) :
    ∃ list, (fields.all.run host past).outcome = .ok list ∧ list.length = fields.count ∧
      ∀ index, (hIndex : index < list.length) →
        ∃ later, ((fields.field index).run host later).outcome = .ok list[index] := by
  obtain ⟨list, hAll, hEach⟩ := exists_run_forEach (f := fields.field)
    (fun index hMem => h index (List.mem_range.mp hMem)) host past
  have hLength := hEach.length_eq
  rw [List.length_range] at hLength
  refine ⟨list, hAll, hLength.symm, ?_⟩
  intro index hIndex
  have hField := List.forall₂_iff_get.mp hEach
  simpa using hField.2 index (by simpa [hLength] using hIndex) hIndex

end Fields

namespace Decoder

variable {decoder : Decoder} {object : ObjectRef} {wrap : α → FieldValue} {payload : Inquiry α}

/-- Neither the fields nor the value get past the contradiction. -/
def Rejects (decoder : Decoder) (object : ObjectRef) (host : Host) (past : List Request)
    (kind : Inconsistency) : Prop :=
  ((decoder.fields object).run host past).outcome = .error (.error (.decode object.address kind)) ∧
  ((decoder.value object).run host past).outcome = .error (.error (.decode object.address kind))

/-- Behind what is read first, the value asks for what the payload asks for, and is the text of what the
payload comes to, or fails with its error. -/
def Retraces (decoder : Decoder) (object : ObjectRef) (host : Host) (past : List Request)
    (read : Run β) (wrap : α → FieldValue) (payload : Inquiry α) : Prop :=
  ∀ result : Except Error α,
    (payload.run host (read.requests.reverse ++ past)).outcome = result.mapError Failure.error →
      (decoder.value object).run host past =
        ⟨(result.map fun found => some (wrap found).display).mapError Failure.error,
          read.trace ++ (payload.run host (read.requests.reverse ++ past)).trace⟩

theorem retraces_of_value {first : Inquiry β} {next : β → Inquiry (Option String)} {found : β}
    (hValue : decoder.value object = first >>= next)
    (hFirst : (first.run host past).outcome = .ok found)
    (hNext : next found = do return some (wrap (← payload)).display) :
    decoder.Retraces object host past (first.run host past) wrap payload := by
  intro result hResult
  rw [hValue, run_bind_of_ok next hFirst, hNext, run_bind_pure, hResult]
  cases result <;> rfl

end Decoder

end HeapInspector
