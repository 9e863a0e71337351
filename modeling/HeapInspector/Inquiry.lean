import HeapInspector.Failure

/-!
Inquiries: computations that may ask for ranges of a target's memory. An inquiry is plain data. It
says which range it asks for next, and how it goes on after each possible response, so everything
that it will ever ask for can be reasoned about without a target at hand. A host answers, and a run
records what was asked and answered.
-/

namespace HeapInspector

/-- A range of memory. -/
structure Request where
  address : Nat
  size : Nat
  deriving DecidableEq, Repr

/-- What a host says to a request. Nothing is promised about the number of bytes. -/
abbrev Response := Except AccessFault Bytes

inductive Inquiry (α : Type) where
  | done (value : α)
  | fail (failure : Failure)
  | read (request : Request) (resume : Response → Inquiry α)

namespace Inquiry

def bind {α β : Type} : Inquiry α → (α → Inquiry β) → Inquiry β
  | done value, next => next value
  | fail failure, _ => fail failure
  | read request resume, next => read request fun response => (resume response).bind next

instance : Monad Inquiry where
  pure := done
  bind := bind

theorem bind_eq {α β : Type} (i : Inquiry α) (next : α → Inquiry β) : i >>= next = i.bind next :=
  rfl

theorem bind_done {α : Type} (i : Inquiry α) : i.bind done = i := by
  induction i with
  | done value => rfl
  | fail failure => rfl
  | read request resume ih => simp [bind, ih]

theorem bind_assoc {α β γ : Type} (i : Inquiry α) (f : α → Inquiry β) (g : β → Inquiry γ) :
    (i.bind f).bind g = i.bind fun value => (f value).bind g := by
  induction i with
  | done value => rfl
  | fail failure => rfl
  | read request resume ih => simp [bind, ih]

instance : LawfulMonad Inquiry :=
  LawfulMonad.mk' Inquiry
    (by intro α i; exact bind_done i)
    (by intros; rfl)
    (by intro α β γ i f g; exact bind_assoc i f g)

def error {α : Type} (e : Error) : Inquiry α := fail (.error e)

def defect {α : Type} (d : Defect) : Inquiry α := fail (.defect d)

/-- Turns an error into a value. A defect goes through. -/
def attempt {α : Type} : Inquiry α → Inquiry (Except Error α)
  | done value => done (.ok value)
  | fail (.error e) => done (.error e)
  | fail (.defect d) => fail (.defect d)
  | read request resume => read request fun response => (resume response).attempt

/-- The results of an inquiry for each member of a list, in order. The first failure ends it. -/
def forEach {α β : Type} (f : α → Inquiry β) : List α → Inquiry (List β)
  | [] => done []
  | a :: rest => do
      let b ← f a
      let rest ← forEach f rest
      return b :: rest

/-- A number that has to fit into a machine word of the host. -/
def natural (value : Nat) : Inquiry Nat :=
  if value < machineBound then done value else defect .arithmeticOverflow

/-- An integer that has to fit into a signed machine word of the host. -/
def integer (value : Int) : Inquiry Int :=
  if -(signedBound : Int) ≤ value ∧ value < signedBound then done value else defect .arithmeticOverflow

/-- Exactly `size` bytes. A range that reaches the end of the address space is refused before the
host is asked, and a response of another length is an error of its own. -/
def bytes (address size : Nat) : Inquiry Bytes :=
  if address + size < machineBound then
    read ⟨address, size⟩ fun
      | .error fault => error (.memoryAccess fault)
      | .ok bytes =>
          if bytes.length = size then done bytes
          else
            error (.memoryAccess ⟨address, size,
              "short read of " ++ Numeral.decimal bytes.length ++ " bytes"⟩)
  else error (.memoryAccess ⟨address, size, "range wraps around the address space"⟩)

end Inquiry

/-- A request with its response. -/
structure Exchange where
  request : Request
  response : Response

/-- The end of an inquiry, and everything that was asked on the way, in order. -/
structure Run (α : Type) where
  outcome : Except Failure α
  trace : List Exchange

/-- A host answers a request and may take the requests before it into account, the last one first.
Hosts of memory that changes while it is read are hosts too. -/
abbrev Host := List Request → Request → Response

/-- The host of memory that does not change. -/
def Host.still (answer : Request → Response) : Host := fun _ request => answer request

def Inquiry.run {α : Type} (host : Host) (past : List Request) : Inquiry α → Run α
  | done value => ⟨.ok value, []⟩
  | fail failure => ⟨.error failure, []⟩
  | read request resume =>
      let response := host past request
      let rest := (resume response).run host (request :: past)
      ⟨rest.outcome, ⟨request, response⟩ :: rest.trace⟩

def Run.requests {α : Type} (run : Run α) : List Request := run.trace.map (·.request)

/-- Answers an inquiry through effects of another kind. -/
def Inquiry.through {m : Type → Type} [Monad m] {α : Type} (ask : Request → m Response) :
    Inquiry α → m (Except Failure α)
  | done value => pure (.ok value)
  | fail failure => pure (.error failure)
  | read request resume => do (resume (← ask request)).through ask

end HeapInspector
