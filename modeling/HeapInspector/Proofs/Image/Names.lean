import HeapInspector.Proofs.Image.Placement

/-! The names of types in a finished image. A descriptor is named where it is placed, and afterwards only
a step that names its address gives it another name. No other descriptor gets the same address:
segments that overlap are never finished. -/
namespace HeapInspector

namespace ImageBuilder

variable {builder next final : ImageBuilder} {step : BuildStep} {address : Nat} {data : Bytes}
  {image : MemoryImage} {steps : List BuildStep} {addresses : List Nat}

/-- The address has a byte in a finished segment and another one in the segment that is being filled. -/
def Collides (builder : ImageBuilder) (address : Nat) : Prop :=
  (∃ segment ∈ builder.image.segments, segment.covers ⟨address, 1⟩) ∧
    builder.pendingSegment.covers ⟨address, 1⟩

theorem not_collides_of_flush (h : builder.flush = .ok next) : ¬ builder.Collides address := by
  rintro ⟨⟨segment, hMem, hSegment⟩, hPending⟩
  rw [Segment.covers_iff] at hSegment hPending
  rcases flush_eq_ok h with ⟨hEmpty, _⟩ | ⟨image, hAdd, _⟩
  · simp only [pendingSegment, Segment.stop, hEmpty, List.length_nil] at hPending
    omega
  · have hApart := (MemoryImage.addSegment_eq_ok hAdd).2 segment hMem
    rw [Segment.isApart_iff] at hApart
    dsimp only [pendingSegment] at hApart hSegment hPending
    omega

/-- What has been placed at the position is not pending, so it is finished, and collides with whatever is
placed there again. -/
theorem collides_of_holds_position (h : builder.Holds builder.position data) (hData : data ≠ [])
    (plan : ObjectPlan) : (builder.place plan).2.Collides builder.position := by
  obtain ⟨zeros, hPosition, hPlace⟩ := builder.place_eq plan
  have hPlan := List.length_pos_iff.mpr (plan.encode_ne_nil builder.arch)
  simp only [List.length_append] at hPosition
  rw [hPlace]
  constructor
  · rcases h with ⟨segment, hMem, hSegment⟩ | hPending
    · exact ⟨segment, hMem, hSegment.covers_address hData⟩
    · have hCovers := hPending.covers_address hData
      rw [Segment.covers_iff, pendingSegment, Segment.stop] at hCovers
      dsimp only at hCovers
      omega
  · rw [Segment.covers_iff, pendingSegment, Segment.stop]
    simp only [List.length_append]
    omega

theorem Collides.append (h : builder.Collides address) (more : Bytes) :
    Collides { builder with pending := builder.pending ++ more } address := by
  obtain ⟨hFinished, hPending⟩ := h
  refine ⟨hFinished, ?_⟩
  rw [Segment.covers_iff, pendingSegment, Segment.stop] at hPending ⊢
  simp only [List.length_append] at hPending ⊢
  omega

theorem Collides.pad (h : builder.Collides address) : builder.pad.Collides address := by
  obtain ⟨zeros, _, hPad⟩ := builder.pad_eq
  rw [hPad]
  exact h.append zeros

theorem Collides.place (h : builder.Collides address) (plan : ObjectPlan) :
    (builder.place plan).2.Collides address := h.pad.append _

/-- No step resolves a collision: it stays until the segment is finished, which fails. -/
theorem Collides.perform {placed : Nat} (h : builder.Collides address)
    (hStep : builder.perform step = .ok (placed, next)) : next.Collides address := by
  cases perform_effect hStep with
  | places hPlan hLaysOut hAddress hTypes hNext =>
      rw [hNext]
      exact h.place _
  | moves hPlan hStep hFlush hNext => exact absurd h (not_collides_of_flush hFlush)
  | names hPlan hStep hNext =>
      rw [hNext]
      exact h
  | pads hPlan hStep hNext =>
      rw [hNext]
      exact h.pad

theorem Collides.performAll (h : builder.Collides address)
    (hRun : builder.performAll steps = .ok (addresses, final)) : final.Collides address := by
  induction steps generalizing builder addresses with
  | nil =>
      cases hRun
      exact h
  | cons step rest ih =>
      obtain ⟨_, next, others, hStep, hRest, _⟩ := performAll_cons_eq_ok hRun
      exact ih (h.perform hStep) hRest

/-- On the way to a finished image, nothing collides. -/
theorem not_collides_of_build (hRun : builder.performAll steps = .ok (addresses, final))
    (hBuild : final.build = .ok image) : ¬ builder.Collides address := by
  obtain ⟨flushed, hFlush, _⟩ := build_eq_ok hBuild
  intro hCollides
  exact not_collides_of_flush hFlush (hCollides.performAll hRun)

theorem flush_types (h : builder.flush = .ok next) : next.image.types = builder.image.types := by
  rcases flush_eq_ok h with ⟨_, rfl⟩ | ⟨image, hAdd, rfl⟩
  · rfl
  · obtain ⟨rfl, _⟩ := MemoryImage.addSegment_eq_ok hAdd
    rfl

/-- The name of an address with something placed at it changes only when a step names the address. -/
theorem perform_nameOf {placed : Nat} (h : builder.perform step = .ok (placed, next))
    (hHolds : builder.Holds address data) (hData : data ≠ []) (hApart : ¬ next.Collides address) :
    next.image.types.nameOf address = builder.image.types.nameOf address ∨
      ∃ name, step = .nameType address name ∧ next.image.types.nameOf address = some name := by
  cases perform_effect h with
  | @places plan types hPlan hLaysOut hAddress hTypes hNext =>
      left
      rcases hTypes with hSame | ⟨name, hNamed⟩
      · rw [hNext, hSame]
      · -- A descriptor at the address would collide with what is there.
        have hOther : address ≠ placed := by
          intro hPlaced
          rw [hPlaced, hAddress] at hHolds hApart
          rw [hNext] at hApart
          exact hApart (collides_of_holds_position hHolds hData plan)
        rw [hNext, hNamed]
        exact TypeTable.nameOf_insert_of_ne _ name hOther
  | moves hPlan hStep hFlush hNext =>
      have hFlushed := flush_types hFlush
      rw [hNext]
      exact .inl (by rw [hFlushed])
  | pads hPlan hStep hNext =>
      rw [hNext]
      exact .inl rfl
  | @names name hPlan hStep hNext =>
      rw [hNext, hStep]
      by_cases hSame : address = placed
      · subst hSame
        exact .inr ⟨name, rfl, TypeTable.nameOf_insert_self _ _ _⟩
      · exact .inl (TypeTable.nameOf_insert_of_ne _ name hSame)

theorem performAll_nameOf (hRun : builder.performAll steps = .ok (addresses, final))
    (hBuild : final.build = .ok image) (hHolds : builder.Holds address data) (hData : data ≠ []) :
    final.image.types.nameOf address = builder.image.types.nameOf address ∨
      ∃ name, .nameType address name ∈ steps ∧ final.image.types.nameOf address = some name := by
  induction steps generalizing builder addresses with
  | nil =>
      cases hRun
      exact .inl rfl
  | cons step rest ih =>
      obtain ⟨_, next, others, hStep, hRest, _⟩ := performAll_cons_eq_ok hRun
      have hFirst := perform_nameOf hStep hHolds hData (not_collides_of_build hRest hBuild)
      rcases ih hRest (perform_holds hStep hHolds hData) with hKept | ⟨name, hMem, hName⟩
      · rw [hKept]
        rcases hFirst with hSame | ⟨name, rfl, hName⟩
        · exact .inl hSame
        · exact .inr ⟨name, List.mem_cons_self, hName⟩
      · exact .inr ⟨name, List.mem_cons_of_mem _ hMem, hName⟩

/-- In a finished image, a descriptor has the name that it was laid out under, or one that a later step
gave to its address. -/
theorem build_nameOf_descriptor {arch : Architecture} {index : Nat} {name : String}
    {slots bytes : Option Nat} (hRun : (new arch).performAll steps = .ok (addresses, final))
    (hBuild : final.build = .ok image) (hStep : steps[index]? = some (.typeDescriptor name slots bytes))
    (hAddress : addresses[index]? = some address) :
    ∃ current, image.types.nameOf address = some current ∧
      (current = name ∨ .nameType address current ∈ steps.drop (index + 1)) := by
  obtain ⟨before, next, others, _, hPerformed, hBehind, _⟩ :=
    performed_of_getElem? hRun hStep hAddress
  have hHolds := perform_holds_plan hPerformed rfl
  have hNamed : next.image.types.nameOf address = some name := by
    cases hPerformed
    exact TypeTable.nameOf_insert_self _ _ _
  obtain ⟨flushed, hFlush, rfl⟩ := build_eq_ok hBuild
  rw [flush_types hFlush]
  rcases performAll_nameOf hBehind hBuild hHolds (ObjectPlan.encode_ne_nil _ _) with
    hKept | ⟨current, hMem, hName⟩
  · exact ⟨name, hKept.trans hNamed, .inl rfl⟩
  · exact ⟨current, hName, .inr hMem⟩

end ImageBuilder

end HeapInspector
