import HeapInspector.Inquiry

/-! What an inquiry asks for in view of what it has heard. The judgement carries the exchanges so far
along, so that a request can be justified by earlier responses and a value by all of them. It also says
what becomes of a response that is no answer: the inquiry ends with its fault, and nothing else. -/
namespace HeapInspector

namespace Exchange

/-- The fault that an exchange amounts to: the one that the host reports, or that of a response with
another number of bytes than were asked for. -/
def fault? (exchange : Exchange) : Option AccessFault :=
  match exchange.response with
  | .error fault => some fault
  | .ok bytes =>
      if bytes.length = exchange.request.size then none
      else some ⟨exchange.request.address, exchange.request.size,
        "short read of " ++ Numeral.decimal bytes.length ++ " bytes"⟩

variable {request : Request} {response : Response}

/-- Without a fault, there are as many bytes as were asked for. -/
theorem fault?_eq_none_iff :
    fault? ⟨request, response⟩ = none ↔
      ∃ bytes, response = .ok bytes ∧ bytes.length = request.size := by
  cases response with
  | error fault => simp [fault?]
  | ok bytes => simp [fault?]

end Exchange

namespace Inquiry

variable {α β : Type} {agenda : List Exchange → Request → Prop} {post : List Exchange → α → Prop}
  {heard : List Exchange} {i : Inquiry α}

/-- After the exchanges so far, the inquiry only asks for what is on the agenda then, and every value
that it comes to has the property `post` together with all exchanges up to it. A fault ends it. -/
inductive Follows (agenda : List Exchange → Request → Prop) (post : List Exchange → α → Prop) :
    List Exchange → Inquiry α → Prop where
  | done {heard : List Exchange} {value : α} (hPost : post heard value) :
      Follows agenda post heard (.done value)
  | fail {heard : List Exchange} {failure : Failure} : Follows agenda post heard (.fail failure)
  | read {heard : List Exchange} {request : Request} {resume : Response → Inquiry α}
      (hAsk : agenda heard request)
      (hFault : ∀ response fault, Exchange.fault? ⟨request, response⟩ = some fault →
        resume response = .fail (.error (.memoryAccess fault)))
      (hResume : ∀ bytes, bytes.length = request.size →
        Follows agenda post (heard ++ [⟨request, .ok bytes⟩]) (resume (.ok bytes))) :
      Follows agenda post heard (.read request resume)

theorem Follows.pure {value : α} (hPost : post heard value) :
    (Pure.pure value : Inquiry α).Follows agenda post heard := .done hPost

theorem Follows.imp {goal : List Exchange → α → Prop} (h : i.Follows agenda post heard)
    (hGoal : ∀ heard value, post heard value → goal heard value) : i.Follows agenda goal heard := by
  induction h with
  | done hPost => exact .done (hGoal _ _ hPost)
  | fail => exact .fail
  | read hAsk hFault _ ih => exact .read hAsk hFault ih

/-- The second part goes on with everything that the first part has heard. -/
theorem Follows.bind {goal : List Exchange → β → Prop} {next : α → Inquiry β}
    (h : i.Follows agenda post heard)
    (hNext : ∀ heard value, post heard value → (next value).Follows agenda goal heard) :
    (i >>= next).Follows agenda goal heard := by
  induction h with
  | done hPost => exact hNext _ _ hPost
  | fail => exact .fail
  | @read heard request resume hAsk hFault _ ih =>
      refine .read hAsk ?_ ih
      intro response fault hResponse
      rw [hFault response fault hResponse]
      rfl

/-- Going through a list without hearing anything more. -/
theorem Follows.forEach_silent {f : α → Inquiry β} {g : α → β} {list : List α}
    (h : ∀ a ∈ list, (f a).Follows agenda (fun now b => now = heard ∧ b = g a) heard) :
    (Inquiry.forEach f list).Follows agenda
      (fun now results => now = heard ∧ results = list.map g) heard := by
  induction list with
  | nil => exact .done ⟨rfl, rfl⟩
  | cons a rest ih =>
      apply (h a List.mem_cons_self).bind
      rintro _ b ⟨rfl, rfl⟩
      apply (ih fun other hOther => h other (List.mem_cons_of_mem _ hOther)).bind
      rintro _ results ⟨rfl, rfl⟩
      exact .pure ⟨rfl, rfl⟩

/-- If a request of the inquiry comes to a fault, it is the last one, and the run ends as said. -/
def EndsAtFaults (ending : AccessFault → Except Failure α) (i : Inquiry α) : Prop :=
  ∀ host past before exchange after fault,
    (i.run host past).trace = before ++ exchange :: after → exchange.fault? = some fault →
      after = [] ∧ (i.run host past).outcome = ending fault

/-- A fault ends the inquiry, which hands it on unchanged. -/
def RelaysFaults (i : Inquiry α) : Prop :=
  i.EndsAtFaults fun fault => .error (.error (.memoryAccess fault))

/-- A response is a fault, which is the end, or it is heard. -/
theorem Follows.resume {request : Request} {resume : Response → Inquiry α}
    (h : (Inquiry.read request resume).Follows agenda post heard) (response : Response) :
    (∃ fault, Exchange.fault? ⟨request, response⟩ = some fault ∧
      resume response = .fail (.error (.memoryAccess fault))) ∨
    Exchange.fault? ⟨request, response⟩ = none ∧
      (resume response).Follows agenda post (heard ++ [⟨request, response⟩]) := by
  cases h with
  | read _ hFault hResume =>
      cases hResponse : Exchange.fault? ⟨request, response⟩ with
      | some fault => exact .inl ⟨fault, rfl, hFault _ _ hResponse⟩
      | none =>
          obtain ⟨bytes, rfl, hLength⟩ := Exchange.fault?_eq_none_iff.mp hResponse
          exact .inr ⟨rfl, hResume bytes hLength⟩

variable {host : Host} {past : List Request}

theorem Follows.agenda_of_trace (h : i.Follows agenda post heard) {before after : List Exchange}
    {exchange : Exchange} (hTrace : (i.run host past).trace = before ++ exchange :: after) :
    agenda (heard ++ before) exchange.request := by
  induction i generalizing heard past before with
  | done value => simp [run] at hTrace
  | fail failure => simp [run] at hTrace
  | read request resume ih =>
      cases before with
      | nil =>
          obtain ⟨rfl, -⟩ := List.cons.inj hTrace
          cases h with
          | read hAsk _ _ => simpa using hAsk
      | cons first before =>
          obtain ⟨rfl, hRest⟩ := List.cons.inj hTrace
          rcases h.resume (host past request) with ⟨fault, -, hEnd⟩ | ⟨-, hNext⟩
          · simp [hEnd, run] at hRest
          · simpa using ih _ hNext hRest

/-- What is always allowed is all that a run asks for. -/
theorem Follows.forall_requests {allowed : Request → Prop}
    (h : i.Follows (fun _ => allowed) post heard) :
    ∀ request ∈ (i.run host past).requests, allowed request := by
  intro request hMem
  obtain ⟨exchange, hExchange, rfl⟩ := List.mem_map.mp hMem
  obtain ⟨before, after, hTrace⟩ := List.append_of_mem hExchange
  exact h.agenda_of_trace hTrace

theorem Follows.relaysFaults (h : i.Follows agenda post heard) : i.RelaysFaults := by
  intro host past before exchange after fault hTrace hExchange
  induction i generalizing heard past before with
  | done value => simp [run] at hTrace
  | fail failure => simp [run] at hTrace
  | read request resume ih =>
      cases before with
      | nil =>
          obtain ⟨rfl, hRest⟩ := List.cons.inj hTrace
          rcases h.resume (host past request) with ⟨found, hFound, hEnd⟩ | ⟨hNone, -⟩
          · obtain rfl := Option.some.inj (hFound.symm.trans hExchange)
            simp only [hEnd, run] at hRest
            exact ⟨hRest.symm, by simp [run, hEnd]⟩
          · simp [hNone] at hExchange
      | cons first before =>
          obtain ⟨rfl, hRest⟩ := List.cons.inj hTrace
          rcases h.resume (host past request) with ⟨found, -, hEnd⟩ | ⟨-, hNext⟩
          · simp [hEnd, run] at hRest
          · exact ih _ hNext _ _ hRest

theorem Follows.post_of_run (h : i.Follows agenda post heard) {value : α}
    (hReturn : (i.run host past).outcome = .ok value) :
    post (heard ++ (i.run host past).trace) value := by
  induction i generalizing heard past with
  | done found =>
      cases hReturn
      cases h with
      | done hPost => simpa [run] using hPost
  | fail failure => cases hReturn
  | read request resume ih =>
      rcases h.resume (host past request) with ⟨fault, -, hEnd⟩ | ⟨-, hNext⟩
      · simp [run, hEnd] at hReturn
      · simpa [run] using ih _ hNext hReturn

end Inquiry

end HeapInspector
