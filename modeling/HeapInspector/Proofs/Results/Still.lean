import HeapInspector.Proofs.Conduct.Introspection
import HeapInspector.Proofs.Results.Inquiry

/-! Memory that does not change. An inquiry comes to the same end whatever was asked before, so what a
whole comes to can be traced back to its parts, and what never stops comes to a value or to an error. -/
namespace HeapInspector

namespace Inquiry

variable {α β : Type} {host : Host} {answer : Request → Response} {i : Inquiry α}

/-- Whatever was asked before, the host brings the inquiry to the error. -/
def Fails (host : Host) (i : Inquiry α) (e : Error) : Prop :=
  ∀ past, (i.run host past).outcome = .error (.error e)

/-- A failure of the first part is the failure of the whole. -/
theorem outcome_bind_of_error (next : α → Inquiry β) {past : List Request} {failure : Failure}
    (h : (i.run host past).outcome = .error failure) :
    ((i >>= next).run host past).outcome = .error failure := by
  induction i generalizing past with
  | done value => cases h
  | fail found => exact congrArg _ (Except.error.inj h)
  | read request resume ih => exact ih (host past request) h

/-- A run of the whole that fails does so in its first part, or in what follows the value of that part. -/
theorem failure_of_bind {next : α → Inquiry β} {past : List Request} {failure : Failure}
    (h : ((i >>= next).run host past).outcome = .error failure) :
    (i.run host past).outcome = .error failure ∨
      ∃ value later, (i.run host past).outcome = .ok value ∧
        ((next value).run host later).outcome = .error failure := by
  cases hFirst : (i.run host past).outcome with
  | error found =>
      rw [outcome_bind_of_error next hFirst] at h
      cases h
      exact .inl rfl
  | ok value =>
      obtain ⟨later, hLater⟩ := exists_run_bind next hFirst
      exact .inr ⟨value, later, rfl, hLater.symm.trans h⟩

theorem Fails.bind {next : α → Inquiry β} {e : Error} (h : i.Fails host e) :
    (i >>= next).Fails host e := fun past => outcome_bind_of_error next (h past)

theorem Yields.bind_fails {next : α → Inquiry β} {value : α} {e : Error} (h : i.Yields host value)
    (hNext : (next value).Fails host e) : (i >>= next).Fails host e := by
  intro past
  obtain ⟨later, hLater⟩ := exists_run_bind next (h past)
  rw [hLater]
  exact hNext later

/-- An error that an inquiry comes to is one that it may report. -/
theorem Meets.reports_of_fails {conduct : Conduct} {post : α → Prop} {reads : Nat}
    (h : i.Meets conduct post reads) {e : Error} (hFails : i.Fails host e) : conduct.reports e :=
  h.reports_of_outcome (hFails [])

theorem Yields.mayReturn {value : α} (h : i.Yields host value) : i.MayReturn value :=
  ⟨host, [], h []⟩

theorem not_yields_fail {failure : Failure} {value : α} :
    ¬ (fail failure : Inquiry α).Yields host value :=
  fun h => by cases h []

theorem Fails.attempt {e : Error} (h : i.Fails host e) : i.attempt.Yields host (.error e) := by
  intro past
  have hRun := h past
  clear h
  induction i generalizing past with
  | done value => cases hRun
  | fail failure =>
      cases hRun
      rfl
  | read request resume ih => exact ih (host past request) (request :: past) hRun

theorem outcome_still (i : Inquiry α) (past later : List Request) :
    (i.run (.still answer) past).outcome = (i.run (.still answer) later).outcome := by
  induction i generalizing past later with
  | done value => rfl
  | fail failure => rfl
  | read request resume ih => exact ih (answer request) (request :: past) (request :: later)

theorem yields_of_outcome {value : α} {past : List Request}
    (h : (i.run (.still answer) past).outcome = .ok value) : i.Yields (.still answer) value :=
  fun later => (outcome_still i later past).trans h

theorem fails_of_outcome {e : Error} {past : List Request}
    (h : (i.run (.still answer) past).outcome = .error (.error e)) : i.Fails (.still answer) e :=
  fun later => (outcome_still i later past).trans h

/-- A whole that comes to a value has a first part that does. -/
theorem exists_yields_of_bind {next : α → Inquiry β} {result : β}
    (h : (i >>= next).Yields (.still answer) result) :
    ∃ value, i.Yields (.still answer) value ∧ (next value).Yields (.still answer) result := by
  cases hFirst : (i.run (.still answer) []).outcome with
  | error failure =>
      have hWhole := outcome_bind_of_error next hFirst
      rw [h []] at hWhole
      cases hWhole
  | ok value =>
      obtain ⟨later, hLater⟩ := exists_run_bind next hFirst
      exact ⟨value, yields_of_outcome hFirst, yields_of_outcome (hLater.symm.trans (h []))⟩

theorem yields_or_fails (h : i.NeverStops) :
    (∃ value, i.Yields (.still answer) value) ∨ ∃ e, i.Fails (.still answer) e := by
  cases hEnd : (i.run (.still answer) []).outcome with
  | ok value => exact .inl ⟨value, yields_of_outcome hEnd⟩
  | error failure =>
      cases failure with
      | error e => exact .inr ⟨e, fails_of_outcome hEnd⟩
      | defect d => exact absurd hEnd (h (.still answer) [] d)

theorem exists_yields (h : i.AlwaysReturns) : ∃ value, i.Yields (.still answer) value := by
  obtain ⟨value, hValue⟩ := h (.still answer) []
  exact ⟨value, yields_of_outcome hValue⟩

theorem Yields.unique {first second : α} (hFirst : i.Yields host first)
    (hSecond : i.Yields host second) : first = second :=
  Except.ok.inj ((hFirst []).symm.trans (hSecond []))

theorem Fails.unique {first second : Error} (hFirst : i.Fails host first)
    (hSecond : i.Fails host second) : first = second := by
  have hSame := (hFirst []).symm.trans (hSecond [])
  cases hSame
  rfl

theorem Yields.not_fails {value : α} (h : i.Yields host value) (e : Error) : ¬ i.Fails host e :=
  fun hFails => by cases (h []).symm.trans (hFails [])

/-- Over memory that does not change, both ends are those of every run. -/
theorem fails_of_bind {next : α → Inquiry β} {e : Error} (h : (i >>= next).Fails (.still answer) e) :
    i.Fails (.still answer) e ∨
      ∃ value, i.Yields (.still answer) value ∧ (next value).Fails (.still answer) e := by
  rcases failure_of_bind (h []) with hFirst | ⟨value, later, hFirst, hNext⟩
  · exact .inl (fails_of_outcome hFirst)
  · exact .inr ⟨value, yields_of_outcome hFirst, fails_of_outcome hNext⟩

/-- Over the host both inquiries come to the same end. -/
def EndsLike (host : Host) (i other : Inquiry α) : Prop :=
  ∀ past, (i.run host past).outcome = (other.run host past).outcome

theorem EndsLike.trans {second third : Inquiry α} (h : i.EndsLike host second)
    (hThird : second.EndsLike host third) : i.EndsLike host third :=
  fun past => (h past).trans (hThird past)

theorem EndsLike.yields_iff {other : Inquiry α} (h : i.EndsLike host other) {value : α} :
    i.Yields host value ↔ other.Yields host value :=
  forall_congr' fun past => by rw [h past]

theorem EndsLike.fails_iff {other : Inquiry α} (h : i.EndsLike host other) {e : Error} :
    i.Fails host e ↔ other.Fails host e :=
  forall_congr' fun past => by rw [h past]

/-- Once the value of the first part is known, the rest is the whole. -/
theorem Yields.bind_endsLike {value : α} (h : i.Yields (.still answer) value)
    (next : α → Inquiry β) : (i >>= next).EndsLike (.still answer) (next value) := by
  intro past
  obtain ⟨later, hLater⟩ := exists_run_bind next (h past)
  exact hLater.trans (outcome_still _ later past)

theorem EndsLike.bind {other : Inquiry α} (h : i.EndsLike (.still answer) other)
    (next : α → Inquiry β) : (i >>= next).EndsLike (.still answer) (other >>= next) := by
  intro past
  cases hFirst : (i.run (.still answer) past).outcome with
  | error failure =>
      have hOther := hFirst
      rw [h past] at hOther
      rw [outcome_bind_of_error next hFirst, outcome_bind_of_error next hOther]
  | ok value =>
      have hValue := yields_of_outcome hFirst
      have hOther : other.Yields (.still answer) value := h.yields_iff.mp hValue
      rw [hValue.bind_endsLike next past, hOther.bind_endsLike next past]

end Inquiry

namespace Fields

variable {host : Host} {name : String} {inquiry : Inquiry FieldValue}

theorem field_fails {fields : Fields} {index : Nat} {e : Error}
    (h : (fields.value index).Fails host e) :
    (fields.field index).Yields host ⟨fields.name index, .unavailable e⟩ :=
  h.attempt.bind (.pure _)

/-- Over memory that does not change, fields that make the same inquiry show the same under their names. -/
theorem exists_shown (answer : Request → Response) {inquiry : Inquiry FieldValue}
    (h : inquiry.NeverStops) :
    ∃ value, ∀ (fields : Fields) index, fields.value index = inquiry →
      (fields.field index).Yields (.still answer) ⟨fields.name index, value⟩ := by
  have hEnd : (∃ value, inquiry.Yields (.still answer) value) ∨ ∃ e, inquiry.Fails (.still answer) e :=
    Inquiry.yields_or_fails h
  rcases hEnd with ⟨value, hYields⟩ | ⟨e, hFails⟩
  · exact ⟨value, fun fields index hSame => field_yields (hSame ▸ hYields)⟩
  · exact ⟨.unavailable e, fun fields index hSame => field_fails (hSame ▸ hFails)⟩

/-- A field that cannot be read shows the error. -/
theorem show_one_of_fails {e : Error} (h : inquiry.Fails host e) :
    (one name inquiry).Show host [⟨name, .unavailable e⟩] := by
  constructor
  · rfl
  · intro index hIndex
    have hZero : index = 0 := by simpa using hIndex
    subst hZero
    exact field_fails h

/-- Fields in order show something, each of them, whatever is served. -/
theorem Orderly.exists_show {answer : Request → Response} {conduct : Conduct} {fields : Fields}
    (h : fields.Orderly conduct) : ∃ list, fields.Show (.still answer) list := by
  have hEach (index : Fin fields.count) :
      ∃ field, (fields.field index).Yields (.still answer) field :=
    Inquiry.exists_yields (h.meets_field index.isLt).alwaysReturns
  choose field hField using hEach
  refine ⟨List.ofFn field, List.length_ofFn.symm, ?_⟩
  intro index hIndex
  rw [List.getElem_ofFn]
  exact hField ⟨index, by simpa using hIndex⟩

end Fields

/-- Once the fields of a decoder in order are located, they show something. -/
theorem Decoder.Orderly.exists_show {answer : Request → Response} {conduct : Conduct}
    {decoder : Decoder} {object : ObjectRef} {fields : Fields} (h : decoder.Orderly conduct object)
    (hFields : (decoder.fields object).Yields (.still answer) fields) :
    ∃ list, fields.Show (.still answer) list := by
  have hLocated : fields.Orderly conduct := h.fields.post_of_mayReturn hFields.mayReturn
  exact hLocated.exists_show

end HeapInspector
