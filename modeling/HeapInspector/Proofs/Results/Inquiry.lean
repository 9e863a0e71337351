import HeapInspector.Field
import Mathlib.Data.List.Forall2

/-! What an inquiry comes to when its host answers. Runs compose: the rest of an inquiry goes on with
the value of its first part, whatever was asked before. -/
namespace HeapInspector

namespace Inquiry

variable {α β γ : Type} {host : Host}

/-- Whatever was asked before, the host brings the inquiry to the value. -/
def Yields (host : Host) (i : Inquiry α) (value : α) : Prop :=
  ∀ past, (i.run host past).outcome = .ok value

theorem Yields.pure (value : α) : (Pure.pure value : Inquiry α).Yields host value := fun _ => rfl

/-- The second part of a run remembers what the first part asked for. -/
theorem exists_run_bind (next : α → Inquiry β) {i : Inquiry α} {past : List Request} {value : α}
    (h : (i.run host past).outcome = .ok value) :
    ∃ later, ((i >>= next).run host past).outcome = ((next value).run host later).outcome := by
  induction i generalizing past with
  | done found =>
      cases h
      exact ⟨past, rfl⟩
  | fail failure => cases h
  | read request resume ih => exact ih (host past request) h

/-- The second part goes on with the value of the first, and remembers what that one has asked for. -/
theorem run_bind_of_ok (next : α → Inquiry β) {i : Inquiry α} {past : List Request} {value : α}
    (h : (i.run host past).outcome = .ok value) :
    (i >>= next).run host past =
      ⟨((next value).run host ((i.run host past).requests.reverse ++ past)).outcome,
        (i.run host past).trace ++
          ((next value).run host ((i.run host past).requests.reverse ++ past)).trace⟩ := by
  induction i generalizing past with
  | done found =>
      cases h
      rfl
  | fail failure => cases h
  | read request resume ih =>
      have hRest := ih (host past request) h
      simp only [bind_eq] at hRest
      simp only [bind_eq, Inquiry.bind, run, hRest, Run.requests, List.map_cons, List.reverse_cons,
        List.append_assoc, List.cons_append, List.nil_append]

/-- Making something of a value asks for nothing more. -/
theorem run_bind_pure (f : α → β) (i : Inquiry α) (past : List Request) :
    (i >>= fun value => pure (f value)).run host past =
      ⟨(i.run host past).outcome.map f, (i.run host past).trace⟩ := by
  induction i generalizing past with
  | done value => rfl
  | fail failure => rfl
  | read request resume ih =>
      have hRest := ih (host past request) (request :: past)
      simp only [bind_eq] at hRest
      simp only [bind_eq, Inquiry.bind, run, hRest]

/-- Making a value of an error asks for nothing else. -/
theorem run_attempt {i : Inquiry α} {past : List Request} {result : Except Error α}
    (h : (i.run host past).outcome = result.mapError Failure.error) :
    i.attempt.run host past = ⟨.ok result, (i.run host past).trace⟩ := by
  induction i generalizing past with
  | done value =>
      cases result with
      | ok found =>
          cases h
          rfl
      | error e => cases h
  | fail failure =>
      cases result with
      | ok found => cases h
      | error e =>
          cases h
          rfl
  | read request resume ih =>
      have hRest := ih (host past request) h
      simp only [attempt, run, hRest]

theorem Yields.bind {i : Inquiry α} {next : α → Inquiry β} {value : α} {result : β}
    (h : i.Yields host value) (hNext : (next value).Yields host result) :
    (i >>= next).Yields host result := by
  intro past
  obtain ⟨later, hLater⟩ := exists_run_bind next (h past)
  rw [hLater]
  exact hNext later

theorem Yields.attempt {i : Inquiry α} {value : α} (h : i.Yields host value) :
    i.attempt.Yields host (.ok value) := by
  intro past
  have hRun := h past
  clear h
  induction i generalizing past with
  | done found =>
      cases hRun
      rfl
  | fail failure => cases hRun
  | read request resume ih => exact ih (host past request) (request :: past) hRun

theorem yields_natural {value : Nat} (h : value < machineBound) :
    (natural value).Yields host value := by
  rw [natural, if_pos h]
  exact .pure value

theorem yields_integer {value : Int} (h : -(signedBound : Int) ≤ value ∧ value < signedBound) :
    (integer value).Yields host value := by
  rw [integer, if_pos h]
  exact .pure value

theorem forEach_map (f : β → Inquiry γ) (g : α → β) (list : List α) :
    forEach f (list.map g) = forEach (fun a => f (g a)) list := by
  induction list with
  | nil => rfl
  | cons first rest ih => rw [List.map_cons, forEach, forEach, ih]

theorem yields_forEach {f : α → Inquiry β} {list : List α} {results : List β}
    (h : List.Forall₂ (fun a b => (f a).Yields host b) list results) :
    (forEach f list).Yields host results := by
  induction h with
  | nil => exact .pure []
  | cons hFirst _ ih => exact hFirst.bind (ih.bind (.pure _))

end Inquiry

namespace Fields

variable {host : Host} {first second fields : Fields} {firstList secondList list : List Field}

/-- The fields are those of the list: as many, under the same names, and with the values that they
have in the list when their turn comes. -/
structure Show (host : Host) (fields : Fields) (list : List Field) : Prop where
  count : fields.count = list.length
  field : ∀ index, (h : index < list.length) → (fields.field index).Yields host list[index]

theorem show_none : none.Show host [] := ⟨rfl, fun _ h => absurd h (Nat.not_lt_zero _)⟩

theorem field_yields {index : Nat} {value : FieldValue} (h : (fields.value index).Yields host value) :
    (fields.field index).Yields host ⟨fields.name index, value⟩ :=
  h.attempt.bind (.pure _)

theorem show_one {name : String} {inquiry : Inquiry FieldValue} {value : FieldValue}
    (h : inquiry.Yields host value) : (one name inquiry).Show host [⟨name, value⟩] := by
  constructor
  · rfl
  · intro index hIndex
    have hZero : index = 0 := by simpa using hIndex
    subst hZero
    exact field_yields h

theorem show_known {name : String} {value : FieldValue} :
    (known name value).Show host [⟨name, value⟩] := show_one (.pure value)

theorem field_append (first second : Fields) (index : Nat) :
    (first ++ second).field index =
      if index < first.count then first.field index else second.field (index - first.count) := by
  change (first.append second).field index = _
  by_cases hBefore : index < first.count
  · simp [field, append, hBefore]
  · simp [field, append, hBefore]

theorem Show.append (hFirst : first.Show host firstList) (hSecond : second.Show host secondList) :
    (first ++ second).Show host (firstList ++ secondList) := by
  constructor
  · change first.count + second.count = _
    rw [hFirst.count, hSecond.count, List.length_append]
  · intro index hIndex
    rw [List.length_append] at hIndex
    rw [field_append, List.getElem_append, hFirst.count]
    split
    · rename_i hBefore
      exact hFirst.field index hBefore
    · rename_i hBehind
      exact hSecond.field (index - firstList.length) (by omega)

theorem Show.all (h : fields.Show host list) : fields.all.Yields host list := by
  apply Inquiry.yields_forEach
  rw [List.forall₂_iff_get]
  constructor
  · rw [List.length_range, h.count]
  · intro index _ hIndex
    simpa using h.field index hIndex

end Fields

end HeapInspector
