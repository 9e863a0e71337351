import HeapInspector.Inquiry

/-! What an inquiry does under every host. A conduct says which ranges may be asked for and which
errors may be reported, and a bound says how often the inquiry asks. The judgement follows the syntax
of inquiries and has no rule for defects: an inquiry that meets a conduct reaches none, whatever the
host responds. -/
namespace HeapInspector

/-- What an inquiry may do on its way to a value. -/
structure Conduct where
  asks : Request → Prop
  reports : Error → Prop

/-- How an inquiry may end under a conduct, once its errors are values. -/
def Conduct.Settles {α : Type} (conduct : Conduct) (post : α → Prop) : Except Error α → Prop
  | .ok value => post value
  | .error error => conduct.reports error

/-- The conduct that asks for the same ranges and reports nothing. -/
def Conduct.quiet (conduct : Conduct) : Conduct := ⟨conduct.asks, fun _ => False⟩

namespace Inquiry

variable {α β : Type} {conduct : Conduct} {post : α → Prop} {reads : Nat} {i : Inquiry α}

/-- The inquiry keeps to the conduct and asks at most `reads` times, and every value that it can come
to has the property `post`. Responses are not restricted in any way. -/
inductive Meets (conduct : Conduct) (post : α → Prop) : Nat → Inquiry α → Prop where
  | done {reads : Nat} {value : α} (hPost : post value) : Meets conduct post reads (.done value)
  | error {reads : Nat} {e : Error} (hReport : conduct.reports e) :
      Meets conduct post reads (.fail (.error e))
  | read {reads : Nat} {request : Request} {resume : Response → Inquiry α}
      (hAsk : conduct.asks request) (hResume : ∀ response, Meets conduct post reads (resume response)) :
      Meets conduct post (reads + 1) (.read request resume)

theorem Meets.pure {value : α} (hPost : post value) :
    (Pure.pure value : Inquiry α).Meets conduct post reads := .done hPost

theorem Meets.weaken {wide : Conduct} {goal : α → Prop} {more : Nat}
    (h : i.Meets conduct post reads) (hReads : reads ≤ more)
    (hAsks : ∀ request, conduct.asks request → wide.asks request)
    (hReports : ∀ error, conduct.reports error → wide.reports error)
    (hGoal : ∀ value, post value → goal value) : i.Meets wide goal more := by
  induction h generalizing more with
  | done hPost => exact .done (hGoal _ hPost)
  | error hReport => exact .error (hReports _ hReport)
  | read hAsk _ ih =>
      obtain ⟨rest, rfl⟩ : ∃ rest, more = rest + 1 := ⟨more - 1, by omega⟩
      exact .read (hAsks _ hAsk) fun response => ih response (by omega)

theorem Meets.mono {more : Nat} (h : i.Meets conduct post reads) (hReads : reads ≤ more) :
    i.Meets conduct post more :=
  h.weaken hReads (fun _ => id) (fun _ => id) fun _ => id

theorem Meets.imp {goal : α → Prop} (h : i.Meets conduct post reads)
    (hGoal : ∀ value, post value → goal value) : i.Meets conduct goal reads :=
  h.weaken (Nat.le_refl _) (fun _ => id) (fun _ => id) hGoal

/-- The reads of the parts add up. What the first part establishes may be used in the second. -/
theorem Meets.bind {goal : β → Prop} {rest : Nat} {next : α → Inquiry β}
    (h : i.Meets conduct post reads)
    (hNext : ∀ value, post value → (next value).Meets conduct goal rest) :
    (i >>= next).Meets conduct goal (rest + reads) := by
  induction h with
  | done hPost => exact (hNext _ hPost).mono (Nat.le_add_right _ _)
  | error hReport => exact .error hReport
  | read hAsk _ ih => exact .read hAsk ih

/-- An error that is made a value is not reported any more. -/
theorem Meets.attempt (h : i.Meets conduct post reads) :
    i.attempt.Meets conduct.quiet (conduct.Settles post) reads := by
  induction h with
  | done hPost => exact .done hPost
  | error hReport => exact .done hReport
  | read hAsk _ ih => exact .read hAsk ih

theorem Meets.forEach {f : α → Inquiry β} {goal : β → Prop} {list : List α}
    (h : ∀ a ∈ list, (f a).Meets conduct goal reads) :
    (Inquiry.forEach f list).Meets conduct
      (fun results => results.length = list.length ∧ ∀ b ∈ results, goal b) (list.length * reads) := by
  induction list with
  | nil => exact .done ⟨rfl, by simp⟩
  | cons a rest ih =>
      have hRest := ih fun b hb => h b (List.mem_cons_of_mem _ hb)
      rw [List.length_cons, Nat.succ_mul]
      apply (h a List.mem_cons_self).bind
      intro b hb
      rw [← Nat.zero_add (rest.length * reads)]
      apply hRest.bind
      intro results hResults
      apply Meets.pure
      simpa [hResults.1, hb] using hResults.2

/-- Going through a list without asking for anything. -/
theorem Meets.forEach_silent {f : α → Inquiry β} {goal : β → Prop} {list : List α}
    (h : ∀ a ∈ list, (f a).Meets conduct goal 0) :
    (Inquiry.forEach f list).Meets conduct
      (fun results => results.length = list.length ∧ ∀ b ∈ results, goal b) 0 := by
  simpa only [Nat.mul_zero] using Meets.forEach h

/-- Some host brings the inquiry to the value. -/
def MayReturn (i : Inquiry α) (value : α) : Prop :=
  ∃ host past, (i.run host past).outcome = .ok value

/-- No host brings the inquiry to a defect: it ends in a value or in an error. -/
def NeverStops (i : Inquiry α) : Prop :=
  ∀ host past defect, (i.run host past).outcome ≠ .error (.defect defect)

/-- Every host brings the inquiry to a value. -/
def AlwaysReturns (i : Inquiry α) : Prop :=
  ∀ host past, ∃ value, (i.run host past).outcome = .ok value

/-- Every host is asked at most `reads` times, for at most `size` bytes each time. -/
def AsksAtMost (i : Inquiry α) (reads size : Nat) : Prop :=
  ∀ host past, (i.run host past).requests.length ≤ reads ∧
    ∀ request ∈ (i.run host past).requests, request.size ≤ size

/-- Every host is only asked for ranges that end within an address space of the given size. -/
def AsksWithin (i : Inquiry α) (space : Nat) : Prop :=
  ∀ host past, ∀ request ∈ (i.run host past).requests, request.address + request.size ≤ space

theorem Meets.requests_length_le (h : i.Meets conduct post reads) (host : Host)
    (past : List Request) : (i.run host past).requests.length ≤ reads := by
  induction h generalizing past with
  | done _ => simp [run, Run.requests]
  | error _ => simp [run, Run.requests]
  | @read reads request resume _ _ ih =>
      have hRest := ih (host past request) (request :: past)
      simpa [run, Run.requests] using hRest

theorem Meets.asks_of_mem_requests (h : i.Meets conduct post reads) (host : Host)
    (past : List Request) {request : Request} (hMem : request ∈ (i.run host past).requests) :
    conduct.asks request := by
  induction h generalizing past with
  | done _ => simp [run, Run.requests] at hMem
  | error _ => simp [run, Run.requests] at hMem
  | @read reads asked resume hAsk _ ih =>
      have hCases : request = asked ∨
          request ∈ ((resume (host past asked)).run host (asked :: past)).requests := by
        simpa [run, Run.requests] using hMem
      rcases hCases with rfl | hRest
      · exact hAsk
      · exact ih _ _ hRest

/-- Where there is only one request to make, it is made or it is not. -/
theorem Meets.requests_eq (h : i.Meets conduct post 1) {request : Request}
    (hOnly : ∀ asked, conduct.asks asked → asked = request) (host : Host) (past : List Request) :
    (i.run host past).requests = [] ∨ (i.run host past).requests = [request] := by
  have hLength := h.requests_length_le host past
  have hAsked : ∀ asked ∈ (i.run host past).requests, conduct.asks asked :=
    fun _ => h.asks_of_mem_requests host past
  cases hRequests : (i.run host past).requests with
  | nil => exact .inl rfl
  | cons asked rest =>
      rw [hRequests] at hLength hAsked
      have hRest : rest = [] := List.eq_nil_of_length_eq_zero (by simpa using hLength)
      have hFirst : asked = request := hOnly _ (hAsked asked List.mem_cons_self)
      exact .inr (by rw [hRest, hFirst])

/-- A run ends in a value or in an error that may be reported. -/
theorem Meets.exists_result (h : i.Meets conduct post reads) (host : Host) (past : List Request) :
    ∃ result : Except Error α,
      (i.run host past).outcome = result.mapError Failure.error ∧ conduct.Settles post result := by
  induction h generalizing past with
  | @done _ value hPost => exact ⟨.ok value, rfl, hPost⟩
  | @error _ e hReport => exact ⟨.error e, rfl, hReport⟩
  | @read _ request _ _ _ ih => exact ih (host past request) (request :: past)

/-- An error that some run ends in is one that may be reported. -/
theorem Meets.reports_of_outcome (h : i.Meets conduct post reads) {host : Host} {past : List Request}
    {e : Error} (hEnd : (i.run host past).outcome = .error (.error e)) : conduct.reports e := by
  obtain ⟨result, hOutcome, hSettles⟩ := h.exists_result host past
  rw [hOutcome] at hEnd
  cases result with
  | ok value => cases hEnd
  | error found =>
      cases hEnd
      exact hSettles

theorem Meets.neverStops (h : i.Meets conduct post reads) : i.NeverStops := by
  intro host past defect
  obtain ⟨result, hOutcome, _⟩ := h.exists_result host past
  rw [hOutcome]
  intro hDefect
  cases result with
  | ok value => cases hDefect
  | error e => cases hDefect

theorem Meets.post_of_mayReturn (h : i.Meets conduct post reads) {value : α}
    (hValue : i.MayReturn value) : post value := by
  obtain ⟨host, past, hReturn⟩ := hValue
  obtain ⟨result, hOutcome, hSettles⟩ := h.exists_result host past
  rw [hOutcome] at hReturn
  cases result with
  | error e => cases hReturn
  | ok other =>
      cases hReturn
      exact hSettles

/-- Without anything to report, every run ends in a value. -/
theorem Meets.alwaysReturns (h : i.Meets conduct.quiet post reads) : i.AlwaysReturns := by
  intro host past
  obtain ⟨result, hOutcome, hSettles⟩ := h.exists_result host past
  cases result with
  | error e => exact hSettles.elim
  | ok value => exact ⟨value, hOutcome⟩

theorem Meets.asksAtMost {size : Nat} (h : i.Meets conduct post reads)
    (hSize : ∀ request, conduct.asks request → request.size ≤ size) : i.AsksAtMost reads size :=
  fun host past => ⟨h.requests_length_le host past, fun _ hMem =>
    hSize _ (h.asks_of_mem_requests host past hMem)⟩

theorem Meets.asksWithin {space : Nat} (h : i.Meets conduct post reads)
    (hSpace : ∀ request, conduct.asks request → request.address + request.size ≤ space) :
    i.AsksWithin space :=
  fun host past _ hMem => hSpace _ (h.asks_of_mem_requests host past hMem)

end Inquiry

end HeapInspector
