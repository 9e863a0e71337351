import HeapInspector.Image.Builder
import HeapInspector.Proofs.Image.Segments

/-! What a builder places stays in place. The bytes that wait for the end of their segment are treated
as one more segment, so that a single invariant covers them: what has been placed is held by some
segment at its address, before and after it is finished. -/
namespace HeapInspector

/-- A computation that succeeds has two parts that do. -/
theorem bind_eq_ok {ε α β : Type} {first : Except ε α} {next : α → Except ε β} {result : β}
    (h : first >>= next = .ok result) : ∃ value, first = .ok value ∧ next value = .ok result := by
  cases first with
  | error e => cases h
  | ok value => exact ⟨value, rfl, h⟩

namespace BuildStep

/-- Whether the step lays out an object. The other steps move on, give a name or leave zeros. -/
def laysOut : BuildStep → Bool
  | .moveTo _ => false
  | .nameType _ _ => false
  | .typeDescriptor _ _ _ => true
  | .slots _ _ => true
  | .symbol _ _ _ => true
  | .string _ _ => true
  | .bytes _ _ => true
  | .object _ _ => true
  | .abandon _ => false

/-- Whether the step lays out a descriptor of the type of types, in any spelling of its name. -/
def isTypeOfTypes : BuildStep → Bool
  | .typeDescriptor name _ _ => TypeKey.ofName name = ⟨"type"⟩
  | _ => false

end BuildStep

/-- An object with the address where it was placed. -/
structure Placement where
  address : Nat
  plan : ObjectPlan
  deriving DecidableEq

theorem ObjectPlan.encode_eq (arch : Architecture) (plan : ObjectPlan) :
    plan.encode arch = arch.encodeWord plan.header.toWords.1 ++
      arch.encodeWord plan.header.toWords.2 ++ plan.body := rfl

theorem ObjectPlan.encode_length (arch : Architecture) (plan : ObjectPlan) :
    (plan.encode arch).length = arch.headerSize + plan.body.length := by
  simp [encode, Architecture.headerSize, Nat.two_mul, Nat.add_assoc]

theorem ObjectPlan.encode_ne_nil (arch : Architecture) (plan : ObjectPlan) :
    plan.encode arch ≠ [] := by
  intro hEmpty
  have hLength := plan.encode_length arch
  have hWord := arch.wordSize_pos
  rw [hEmpty, Architecture.headerSize, List.length_nil] at hLength
  omega

namespace ImageBuilder

variable {builder next final : ImageBuilder} {step : BuildStep} {address : Nat} {data : Bytes}
  {image : MemoryImage} {plan : ObjectPlan}

/-- Performs steps in order. The addresses are those of the steps. -/
def performAll (builder : ImageBuilder) : List BuildStep → Except Defect (List Nat × ImageBuilder)
  | [] => .ok ([], builder)
  | step :: rest => do
      let (address, builder) ← builder.perform step
      let (addresses, builder) ← builder.performAll rest
      return (address :: addresses, builder)

/-- The object that a step makes the builder place, if it places one. -/
def plan? (builder : ImageBuilder) (step : BuildStep) : Option ObjectPlan :=
  match builder.action step with
  | .ok (.place plan _) => some plan
  | _ => none

/-- The objects that a run places, in order. -/
def placements (builder : ImageBuilder) : List BuildStep → List Placement
  | [] => []
  | step :: rest =>
      match builder.perform step with
      | .ok (address, next) =>
          ((builder.plan? step).toList.map (⟨address, ·⟩)) ++ next.placements rest
      | .error _ => []

theorem le_roundUp {wordSize : Nat} (hWord : 0 < wordSize) (size : Nat) :
    size ≤ roundUp wordSize size := by
  have hDivision := Nat.div_add_mod (size + wordSize - 1) wordSize
  have hRest := Nat.mod_lt (size + wordSize - 1) hWord
  rw [Nat.mul_comm] at hDivision
  unfold roundUp
  omega

/-- The position is where the zeros end. -/
theorem pad_eq (builder : ImageBuilder) :
    ∃ zeros : Bytes, builder.position = builder.base + (builder.pending ++ zeros).length ∧
      builder.pad = { builder with pending := builder.pending ++ zeros } := by
  have hRound := le_roundUp builder.arch.wordSize_pos builder.pending.length
  refine ⟨List.replicate (builder.position - builder.base - builder.pending.length) 0, ?_, rfl⟩
  rw [List.length_append, List.length_replicate, position]
  omega

/-- The builder with an object behind what is pending. -/
theorem place_eq (builder : ImageBuilder) (plan : ObjectPlan) :
    ∃ zeros : Bytes, builder.position = builder.base + (builder.pending ++ zeros).length ∧
      builder.place plan = (builder.position,
        { builder with pending := builder.pending ++ zeros ++ plan.encode builder.arch }) := by
  obtain ⟨zeros, hPosition, hPad⟩ := builder.pad_eq
  refine ⟨zeros, hPosition, ?_⟩
  rw [place, hPad]

/-- Finishing a segment adds what is pending to the image, unless there is nothing. -/
theorem flush_eq_ok (h : builder.flush = .ok next) :
    (builder.pending = [] ∧ next = builder) ∨
      ∃ image, builder.image.addSegment builder.base builder.pending = .ok image ∧
        next = { builder with image, base := builder.base + builder.pending.length, pending := [] } := by
  unfold flush at h
  split at h
  · rename_i hEmpty
    cases h
    exact .inl ⟨List.isEmpty_iff.mp hEmpty, rfl⟩
  · obtain ⟨image, hAdd, hDone⟩ := bind_eq_ok h
    cases hDone
    exact .inr ⟨image, hAdd, rfl⟩

/-- The four things that a step can do: place an object at the position, go on elsewhere behind a
finished segment, give a name, or leave zeros. A descriptor is named where it is placed, and only a
descriptor can settle the type of types. -/
inductive Effect (builder : ImageBuilder) (step : BuildStep) (address : Nat) (next : ImageBuilder) :
    Prop where
  | places {plan : ObjectPlan} {types : TypeTable} (hPlan : builder.plan? step = some plan)
      (hLaysOut : step.laysOut = true) (hAddress : address = builder.position)
      (hTypes : types = builder.image.types ∨
        ∃ name, types = builder.image.types.insert address name)
      (hNext : next = { (builder.place plan).2 with
        image := { builder.image with types },
        typeOfTypes :=
          builder.typeOfTypes.or (if step.isTypeOfTypes then some address else none) })
  | moves {flushed : ImageBuilder} {base : Nat} (hPlan : builder.plan? step = none)
      (hStep : step = .moveTo base) (hFlush : builder.flush = .ok flushed)
      (hNext : next = { flushed with base })
  | names {name : String} (hPlan : builder.plan? step = none) (hStep : step = .nameType address name)
      (hNext : next = { builder with image := builder.image.nameType address name })
  | pads {body : List BodyPart} (hPlan : builder.plan? step = none) (hStep : step = .abandon body)
      (hNext : next = builder.pad)

theorem Effect.of_place (hAction : builder.action step = .ok (.place plan none))
    (hAct : builder.act (.place plan none) = .ok (address, next)) (hLaysOut : step.laysOut = true)
    (hOther : step.isTypeOfTypes = false) : builder.Effect step address next := by
  cases hAct
  refine .places (by rw [plan?, hAction]) hLaysOut rfl (.inl rfl) ?_
  simp [hOther, place, pad]

/-- All that there is to know of a step that succeeds. What steps preserve is shown by the four cases of
the effect, without another look at the steps. -/
theorem perform_effect (h : builder.perform step = .ok (address, next)) :
    builder.Effect step address next := by
  obtain ⟨action, hAction, hAct⟩ := bind_eq_ok h
  cases step with
  | moveTo base =>
      cases hAction
      obtain ⟨flushed, hFlush, hDone⟩ := bind_eq_ok hAct
      cases hDone
      exact .moves rfl rfl hFlush rfl
  | nameType named name =>
      cases hAction
      cases hAct
      exact .names rfl rfl rfl
  | typeDescriptor name slots bytes =>
      cases hAction
      cases hAct
      refine .places rfl rfl rfl (.inr ⟨name, rfl⟩) ?_
      simp [BuildStep.isTypeOfTypes, nameDescriptor, MemoryImage.nameType, place, pad]
  | slots typeAddress items =>
      obtain ⟨body, _, hDone⟩ := bind_eq_ok hAction
      cases hDone
      exact .of_place hAction hAct rfl rfl
  | symbol typeAddress text hash =>
      cases hAction
      exact .of_place rfl hAct rfl rfl
  | string typeAddress text =>
      cases hAction
      exact .of_place rfl hAct rfl rfl
  | bytes typeAddress data =>
      cases hAction
      exact .of_place rfl hAct rfl rfl
  | object header parts =>
      obtain ⟨body, _, hDone⟩ := bind_eq_ok hAction
      cases hDone
      exact .of_place hAction hAct rfl rfl
  | abandon parts =>
      obtain ⟨body, _, hDone⟩ := bind_eq_ok hAction
      cases hDone
      cases hAct
      exact .pads (by rw [plan?, hAction]) rfl rfl

/-- A step that succeeds places an object exactly if it is one that lays out an object. -/
theorem plan?_isSome (h : builder.perform step = .ok (address, next)) :
    (builder.plan? step).isSome = step.laysOut := by
  cases perform_effect h with
  | places hPlan hLaysOut hAddress hTypes hNext => rw [hPlan, hLaysOut, Option.isSome_some]
  | moves hPlan hStep hFlush hNext
  | names hPlan hStep hNext
  | pads hPlan hStep hNext =>
      rw [hPlan, hStep]
      rfl

/-- The object of a step is placed at the position. -/
theorem perform_places (h : builder.perform step = .ok (address, next))
    (hPlan : builder.plan? step = some plan) :
    address = builder.position ∧ ∃ types typeOfTypes, next = { (builder.place plan).2 with
      image := { builder.image with types }, typeOfTypes } := by
  cases perform_effect h with
  | places hFound hLaysOut hAddress hTypes hNext =>
      rw [hPlan] at hFound
      cases hFound
      exact ⟨hAddress, _, _, hNext⟩
  | moves hNone hStep hFlush hNext
  | names hNone hStep hNext
  | pads hNone hStep hNext =>
      rw [hPlan] at hNone
      cases hNone

theorem performAll_cons_eq_ok {rest : List BuildStep} {addresses : List Nat}
    (h : builder.performAll (step :: rest) = .ok (addresses, final)) :
    ∃ address next others, builder.perform step = .ok (address, next) ∧
      next.performAll rest = .ok (others, final) ∧ addresses = address :: others := by
  obtain ⟨⟨address, next⟩, hStep, hBehind⟩ := bind_eq_ok h
  obtain ⟨⟨others, last⟩, hRest, hDone⟩ := bind_eq_ok hBehind
  cases hDone
  exact ⟨address, next, others, hStep, hRest, rfl⟩

/-- What is pending, as the segment that it will become. -/
def pendingSegment (builder : ImageBuilder) : Segment := ⟨builder.base, builder.pending⟩

/-- The data lie at the address, in a finished segment or in the one that is being filled. -/
def Holds (builder : ImageBuilder) (address : Nat) (data : Bytes) : Prop :=
  (∃ segment ∈ builder.image.segments, segment.Holds address data) ∨
    builder.pendingSegment.Holds address data

theorem flush_arch (h : builder.flush = .ok next) : next.arch = builder.arch := by
  rcases flush_eq_ok h with ⟨_, rfl⟩ | ⟨image, hAdd, rfl⟩
  · rfl
  · obtain ⟨rfl, _⟩ := MemoryImage.addSegment_eq_ok hAdd
    rfl

theorem flush_separated (h : builder.flush = .ok next) (hImage : builder.image.Separated) :
    next.image.Separated := by
  rcases flush_eq_ok h with ⟨_, rfl⟩ | ⟨image, hAdd, rfl⟩
  · exact hImage
  · exact hImage.addSegment hAdd

/-- After finishing a segment, everything that was placed lies in finished segments. -/
theorem flush_holds (h : builder.flush = .ok next) (hHolds : builder.Holds address data)
    (hData : data ≠ []) : ∃ segment ∈ next.image.segments, segment.Holds address data := by
  rcases flush_eq_ok h with ⟨hEmpty, rfl⟩ | ⟨image, hAdd, rfl⟩
  · rcases hHolds with hFinished | ⟨before, after, hPending, _⟩
    · exact hFinished
    · have hNone : before ++ data ++ after = [] := hPending.symm.trans hEmpty
      simp [hData] at hNone
  · obtain ⟨rfl, _⟩ := MemoryImage.addSegment_eq_ok hAdd
    rcases hHolds with ⟨segment, hMem, hSegment⟩ | hPending
    · exact ⟨segment, List.mem_append_left _ hMem, hSegment⟩
    · exact ⟨_, List.mem_append_right _ (List.mem_singleton.mpr rfl), hPending⟩

/-- What lies somewhere still does when there is more behind what is pending. -/
theorem Holds.append (h : builder.Holds address data) (more : Bytes) :
    Holds { builder with pending := builder.pending ++ more } address data := by
  rcases h with hFinished | hPending
  · exact .inl hFinished
  · exact .inr (hPending.append more)

theorem pad_holds (hHolds : builder.Holds address data) : builder.pad.Holds address data := by
  obtain ⟨zeros, _, hPad⟩ := builder.pad_eq
  rw [hPad]
  exact hHolds.append zeros

theorem place_holds (hHolds : builder.Holds address data) (plan : ObjectPlan) :
    (builder.place plan).2.Holds address data := (pad_holds hHolds).append _

/-- What is placed lies at the position. -/
theorem place_holds_self (builder : ImageBuilder) (plan : ObjectPlan) :
    (builder.place plan).2.Holds builder.position (plan.encode builder.arch) := by
  obtain ⟨zeros, hPosition, hPlace⟩ := builder.place_eq plan
  rw [hPlace]
  exact .inr ⟨builder.pending ++ zeros, [], by simp [pendingSegment], hPosition⟩

theorem perform_arch (h : builder.perform step = .ok (address, next)) : next.arch = builder.arch := by
  cases perform_effect h with
  | moves hPlan hStep hFlush hNext =>
      have hFlushed := flush_arch hFlush
      rw [hNext]
      exact hFlushed
  | places hPlan hLaysOut hAddress hTypes hNext
  | names hPlan hStep hNext
  | pads hPlan hStep hNext =>
      rw [hNext]
      rfl

theorem perform_separated (h : builder.perform step = .ok (address, next))
    (hImage : builder.image.Separated) : next.image.Separated := by
  cases perform_effect h with
  | moves hPlan hStep hFlush hNext =>
      have hFlushed := flush_separated hFlush hImage
      rw [hNext]
      exact hFlushed
  | places hPlan hLaysOut hAddress hTypes hNext
  | names hPlan hStep hNext
  | pads hPlan hStep hNext =>
      rw [hNext]
      exact hImage

theorem perform_holds {held : Nat} (h : builder.perform step = .ok (address, next))
    (hHolds : builder.Holds held data) (hData : data ≠ []) : next.Holds held data := by
  cases perform_effect h with
  | places hPlan hLaysOut hAddress hTypes hNext =>
      rw [hNext]
      exact place_holds hHolds _
  | moves hPlan hStep hFlush hNext =>
      have hFlushed := flush_holds hFlush hHolds hData
      rw [hNext]
      exact .inl hFlushed
  | names hPlan hStep hNext =>
      rw [hNext]
      exact hHolds
  | pads hPlan hStep hNext =>
      rw [hNext]
      exact pad_holds hHolds

theorem perform_holds_plan (h : builder.perform step = .ok (address, next))
    (hPlan : builder.plan? step = some plan) : next.Holds address (plan.encode builder.arch) := by
  obtain ⟨hAddress, types, typeOfTypes, hNext⟩ := perform_places h hPlan
  rw [hNext, hAddress]
  exact builder.place_holds_self plan

variable {steps : List BuildStep} {addresses : List Nat}

theorem performAll_arch (h : builder.performAll steps = .ok (addresses, final)) :
    final.arch = builder.arch := by
  induction steps generalizing builder addresses with
  | nil =>
      cases h
      rfl
  | cons step rest ih =>
      obtain ⟨address, next, others, hStep, hRest, _⟩ := performAll_cons_eq_ok h
      rw [ih hRest, perform_arch hStep]

theorem performAll_separated (h : builder.performAll steps = .ok (addresses, final))
    (hImage : builder.image.Separated) : final.image.Separated := by
  induction steps generalizing builder addresses with
  | nil =>
      cases h
      exact hImage
  | cons step rest ih =>
      obtain ⟨address, next, others, hStep, hRest, _⟩ := performAll_cons_eq_ok h
      exact ih hRest (perform_separated hStep hImage)

theorem performAll_holds (h : builder.performAll steps = .ok (addresses, final))
    (hHolds : builder.Holds address data) (hData : data ≠ []) : final.Holds address data := by
  induction steps generalizing builder addresses with
  | nil =>
      cases h
      exact hHolds
  | cons step rest ih =>
      obtain ⟨_, next, others, hStep, hRest, _⟩ := performAll_cons_eq_ok h
      exact ih hRest (perform_holds hStep hHolds hData)

theorem performAll_holds_placements (h : builder.performAll steps = .ok (addresses, final))
    {placement : Placement} (hMem : placement ∈ builder.placements steps) :
    final.Holds placement.address (placement.plan.encode builder.arch) := by
  induction steps generalizing builder addresses with
  | nil => cases hMem
  | cons step rest ih =>
      obtain ⟨address, next, others, hStep, hRest, _⟩ := performAll_cons_eq_ok h
      simp only [placements, hStep, List.mem_append, List.mem_map, Option.mem_toList] at hMem
      rcases hMem with ⟨plan, hPlan, rfl⟩ | hLater
      · exact performAll_holds hRest (perform_holds_plan hStep hPlan) (plan.encode_ne_nil _)
      · rw [← perform_arch hStep]
        exact ih hRest hLater

/-- A step of a run was performed by the builder on the way, which went on with the steps behind it,
and what it makes that builder place is among what the run places. -/
theorem performed_of_getElem? (h : builder.performAll steps = .ok (addresses, final)) {index : Nat}
    (hStep : steps[index]? = some step) (hAddress : addresses[index]? = some address) :
    ∃ (before next : ImageBuilder) (others : List Nat), before.arch = builder.arch ∧
      before.perform step = .ok (address, next) ∧
      next.performAll (steps.drop (index + 1)) = .ok (others, final) ∧
      ∀ plan, before.plan? step = some plan → ⟨address, plan⟩ ∈ builder.placements steps := by
  induction steps generalizing builder addresses index with
  | nil => cases hStep
  | cons first rest ih =>
      obtain ⟨firstAddress, next, others, hFirst, hRest, rfl⟩ := performAll_cons_eq_ok h
      simp only [placements, hFirst]
      cases index with
      | zero =>
          cases hStep
          cases hAddress
          refine ⟨builder, next, others, rfl, hFirst, hRest, ?_⟩
          intro plan hPlan
          simp [hPlan]
      | succ index =>
          obtain ⟨before, after, last, hArch, hPerformed, hBehind, hPlaced⟩ := ih hRest hStep hAddress
          refine ⟨before, after, last, hArch.trans (perform_arch hFirst), hPerformed, hBehind, ?_⟩
          intro plan hPlan
          exact List.mem_append_right _ (hPlaced plan hPlan)

theorem build_eq_ok (h : builder.build = .ok image) :
    ∃ flushed, builder.flush = .ok flushed ∧ image = flushed.image := by
  obtain ⟨flushed, hFlush, hDone⟩ := bind_eq_ok h
  cases hDone
  exact ⟨flushed, hFlush, rfl⟩

theorem build_arch (h : builder.build = .ok image) : image.arch = builder.arch := by
  obtain ⟨flushed, hFlush, rfl⟩ := build_eq_ok h
  exact flush_arch hFlush

/-- Each object that a run places can be read in the finished image, at its address and in any part. -/
theorem build_serves {arch : Architecture}
    (hRun : (new arch).performAll steps = .ok (addresses, final)) (hBuild : final.build = .ok image)
    (hMem : ⟨address, plan⟩ ∈ (new arch).placements steps)
    (hReach : address + (plan.encode arch).length < machineBound) :
    image.host.Serves address (plan.encode arch) := by
  obtain ⟨flushed, hFlush, rfl⟩ := build_eq_ok hBuild
  have hFinal := performAll_holds_placements hRun hMem
  obtain ⟨segment, hSegment, hHolds⟩ := flush_holds hFlush hFinal (plan.encode_ne_nil _)
  have hSeparated := performAll_separated hRun (MemoryImage.separated_empty arch)
  exact (flush_separated hFlush hSeparated).serves hSegment hHolds hReach

end ImageBuilder

end HeapInspector
