import HeapInspector.Proofs.Image.Names
import HeapInspector.Proofs.RoundTrip.Objects

/-! Everything that a builder places is kept. Moves and later objects neither shift nor shadow what is
there: an object that would share an address with an earlier one makes the two segments collide, and
then no image is finished. -/
namespace HeapInspector

open Inquiry

namespace Placement

/-- The range of the object: two words of header, and the body. -/
def range (arch : Architecture) (placement : Placement) : Request :=
  ⟨placement.address, 2 * arch.wordSize + placement.plan.body.length⟩

/-- One of the two objects ends before the other starts. -/
def Apart (arch : Architecture) (first second : Placement) : Prop :=
  first.address + (first.range arch).size ≤ second.address ∨
    second.address + (second.range arch).size ≤ first.address

theorem range_size (arch : Architecture) (placement : Placement) :
    (placement.range arch).size = (placement.plan.encode arch).length :=
  (placement.plan.encode_length arch).symm

end Placement

/-- The bit in front of an aligned address is free for the mark. -/
theorem or_mark_of_aligned {address : Nat} (hAligned : address % 4 = 0) (marked : Bool) :
    address ||| marked.toNat = address + marked.toNat := by
  have hAddress : address = 2 ^ 2 * (address / 4) := by omega
  have hMark : marked.toNat < 2 ^ 2 := marked.toNat_lt.trans (by decide)
  rw [hAddress]
  exact (Nat.two_pow_add_eq_or_of_lt hMark (address / 4)).symm

namespace ObjectHeader

variable {header : ObjectHeader} {width : Width}

/-- A header whose two addresses are aligned is unpacked as it was packed. -/
theorem ofWords_toWords (hType : header.typeAddress % 4 = 0) (hPointer : header.gcPointer % 4 = 0) :
    ofWords header.toWords.1 header.toWords.2 = header := by
  obtain ⟨typeAddress, state, marked, pointer⟩ := header
  have hFirst : typeAddress ||| state.bits = typeAddress + state.bits :=
    or_bits_of_aligned hType state
  have hSecond : pointer ||| marked.toNat = pointer + marked.toNat :=
    or_mark_of_aligned hPointer marked
  have hState := state.bits_lt
  have hMark := marked.toNat_lt
  dsimp only at hType hPointer
  simp only [ofWords, toWords, hFirst, hSecond, mk.injEq]
  refine ⟨by omega, ?_, ?_, by omega⟩
  · have hBits : (typeAddress + state.bits) % 4 = state.bits := by omega
    rw [GcState.ofBits, hBits]
    cases state <;> rfl
  · cases marked <;> simp <;> omega

theorem toWords_lt (hType : header.typeAddress % 4 = 0) (hPointer : header.gcPointer % 4 = 0)
    (hTypeFits : header.typeAddress < width.modulus)
    (hPointerFits : header.gcPointer < width.modulus) :
    header.toWords.1 < width.modulus ∧ header.toWords.2 < width.modulus := by
  have hState := header.gcState.bits_lt
  have hMark := header.marked.toNat_lt
  have hFirst : header.toWords.1 = header.typeAddress + header.gcState.bits :=
    or_bits_of_aligned hType header.gcState
  have hSecond : header.toWords.2 = header.gcPointer + header.marked.toNat :=
    or_mark_of_aligned hPointer header.marked
  have hModulus : width.modulus % 4 = 0 := by cases width <;> rfl
  omega

end ObjectHeader

namespace ImageBuilder

variable {builder next final : ImageBuilder} {step : BuildStep} {steps : List BuildStep}
  {address held : Nat} {data : Bytes} {image : MemoryImage} {addresses : List Nat} {plan : ObjectPlan}

/-- What lies in a finished segment shares no address with the segment that is being filled, unless the
two collide. -/
theorem apart_of_not_collides {start size : Nat} {segment : Segment}
    (hMem : segment ∈ builder.image.segments) (hHolds : segment.Holds held data)
    (hData : data ≠ []) (hPending : builder.pendingSegment.covers ⟨start, size⟩) (hSize : 0 < size)
    (hFree : ∀ x, ¬ builder.Collides x) :
    held + data.length ≤ start ∨ start + size ≤ held := by
  by_contra hShared
  have hLength := List.length_pos_iff.mpr hData
  obtain ⟨x, hHeld, hStart, hHeldStop, hStartStop⟩ :
      ∃ x, held ≤ x ∧ start ≤ x ∧ x + 1 ≤ held + data.length ∧ x + 1 ≤ start + size :=
    ⟨max held start, by omega, by omega, by omega, by omega⟩
  have hWhole : segment.covers ⟨held + 0, data.length⟩ := hHolds.covers (by omega)
  rw [Segment.covers_iff] at hWhole hPending
  apply hFree x
  refine ⟨⟨segment, hMem, ?_⟩, ?_⟩
  · rw [Segment.covers_iff]
    exact ⟨hWhole.1.trans hHeld, hHeldStop.trans hWhole.2⟩
  · rw [Segment.covers_iff]
    exact ⟨hPending.1.trans hStart, hStartStop.trans hPending.2⟩

/-- A new object is apart from whatever is there. -/
theorem perform_apart (h : builder.perform step = .ok (address, next))
    (hPlan : builder.plan? step = some plan) (hHolds : builder.Holds held data) (hData : data ≠ [])
    (hFree : ∀ x, ¬ next.Collides x) :
    held + data.length ≤ address ∨ address + (plan.encode builder.arch).length ≤ held := by
  obtain ⟨hAddress, types, typeOfTypes, hNext⟩ := perform_places h hPlan
  obtain ⟨zeros, hPosition, hPlace⟩ := builder.place_eq plan
  rw [List.length_append] at hPosition
  rcases hHolds with ⟨segment, hMem, hSegment⟩ | ⟨before, after, hPending, hHeld⟩
  · have hKept : segment ∈ next.image.segments := by
      rw [hNext]
      exact hMem
    have hCovers : next.pendingSegment.covers ⟨address, (plan.encode builder.arch).length⟩ := by
      rw [hNext, hPlace, Segment.covers_iff, Segment.stop]
      simp only [pendingSegment, List.length_append]
      omega
    have hSize := List.length_pos_iff.mpr (plan.encode_ne_nil builder.arch)
    exact apart_of_not_collides hKept hSegment hData hCovers hSize hFree
  · left
    have hLength : builder.pending.length = before.length + data.length + after.length := by
      have hWhole : builder.pending = before ++ data ++ after := hPending
      simp [hWhole]
      omega
    have hBase : held = builder.base + before.length := hHeld
    omega

/-- The objects of a run are those of the steps that lay one out, at the addresses that were returned. -/
theorem placements_address (hRun : builder.performAll steps = .ok (addresses, final)) :
    ((steps.zip addresses).filter (·.1.laysOut)).map (·.2) =
      (builder.placements steps).map (·.address) := by
  induction steps generalizing builder addresses with
  | nil => rfl
  | cons step rest ih =>
      obtain ⟨address, next, others, hStep, hRest, rfl⟩ := performAll_cons_eq_ok hRun
      have hPlan := plan?_isSome hStep
      simp only [placements, hStep, List.zip_cons_cons, List.map_append, ← ih hRest]
      cases hFound : builder.plan? step with
      | none =>
          rw [hFound] at hPlan
          rw [List.filter_cons_of_neg (by simp [← hPlan])]
          rfl
      | some plan =>
          rw [hFound] at hPlan
          rw [List.filter_cons_of_pos (by simp [← hPlan])]
          rfl

/-- On the way to a finished image, what is there is apart from every object that is still placed. -/
theorem performAll_apart (hRun : builder.performAll steps = .ok (addresses, final))
    (hBuild : final.build = .ok image) (hHolds : builder.Holds held data) (hData : data ≠ [])
    {placement : Placement} (hMem : placement ∈ builder.placements steps) :
    held + data.length ≤ placement.address ∨
      placement.address + (placement.plan.encode builder.arch).length ≤ held := by
  induction steps generalizing builder addresses with
  | nil => cases hMem
  | cons step rest ih =>
      obtain ⟨address, next, others, hStep, hRest, _⟩ := performAll_cons_eq_ok hRun
      simp only [placements, hStep, List.mem_append, List.mem_map, Option.mem_toList] at hMem
      rcases hMem with ⟨plan, hPlan, rfl⟩ | hLater
      · exact perform_apart hStep hPlan hHolds hData fun _ => not_collides_of_build hRest hBuild
      · rw [← perform_arch hStep]
        exact ih hRest (perform_holds hStep hHolds hData) hLater

theorem placements_pairwise (hRun : builder.performAll steps = .ok (addresses, final))
    (hBuild : final.build = .ok image) :
    (builder.placements steps).Pairwise (Placement.Apart builder.arch) := by
  induction steps generalizing builder addresses with
  | nil => exact .nil
  | cons step rest ih =>
      obtain ⟨address, next, others, hStep, hRest, _⟩ := performAll_cons_eq_ok hRun
      have hLater := ih hRest
      rw [perform_arch hStep] at hLater
      simp only [placements, hStep]
      cases hPlan : builder.plan? step with
      | none => exact hLater
      | some plan =>
          refine .cons ?_ hLater
          intro placement hMem
          have hApart := performAll_apart hRest hBuild (perform_holds_plan hStep hPlan)
            (plan.encode_ne_nil _) hMem
          rw [perform_arch hStep] at hApart
          unfold Placement.Apart
          rw [Placement.range_size, Placement.range_size]
          exact hApart

end ImageBuilder

/-- Nothing that a builder places is lost or overwritten. Each object is served as it was encoded, from
the address that was returned for it, and shares no address with another one. If its type and its
collector's pointer are aligned addresses of the target, its header is read back in full. -/
theorem build_keeps_placements {arch : Architecture} {steps : List BuildStep} {addresses : List Nat}
    {final : ImageBuilder} {image : MemoryImage}
    (hRun : (ImageBuilder.new arch).performAll steps = .ok (addresses, final))
    (hBuild : final.build = .ok image) :
    ((steps.zip addresses).filter (·.1.laysOut)).map (·.2) =
      ((ImageBuilder.new arch).placements steps).map (·.address) ∧
    (∀ placement ∈ (ImageBuilder.new arch).placements steps,
      placement.address + (placement.range arch).size < machineBound →
        image.respond (placement.range arch) =
          .ok (arch.encodeWord placement.plan.header.toWords.1 ++
            arch.encodeWord placement.plan.header.toWords.2 ++ placement.plan.body) ∧
        (placement.plan.header.typeAddress % 4 = 0 → placement.plan.header.gcPointer % 4 = 0 →
          placement.plan.header.typeAddress < arch.width.modulus →
          placement.plan.header.gcPointer < arch.width.modulus →
            (arch.readHeader placement.address).Yields image.host placement.plan.header)) ∧
    ((ImageBuilder.new arch).placements steps).Pairwise (Placement.Apart arch) := by
  refine ⟨ImageBuilder.placements_address hRun, ?_, ImageBuilder.placements_pairwise hRun hBuild⟩
  intro placement hMem hReach
  rw [Placement.range_size] at hReach
  have hServes : image.host.Serves placement.address (placement.plan.encode arch) :=
    ImageBuilder.build_serves hRun hBuild hMem hReach
  constructor
  · have hWhole := hServes.response [] 0 (placement.plan.encode arch).length (by omega)
    rw [Nat.add_zero, List.drop_zero, List.take_length, ← Placement.range_size] at hWhole
    exact hWhole
  · intro hType hPointer hTypeFits hPointerFits
    obtain ⟨hFirst, hSecond⟩ :=
      ObjectHeader.toWords_lt hType hPointer hTypeFits hPointerFits
    rw [ObjectPlan.encode_eq] at hServes
    have hHeader := Architecture.yields_readHeader hServes.left
    rw [Nat.mod_eq_of_lt hFirst, Nat.mod_eq_of_lt hSecond,
      ObjectHeader.ofWords_toWords hType hPointer] at hHeader
    exact hHeader

/-- A marked object below an earlier one, which the builder comes back to: it is placed behind bytes
that do not fill a word, where an object was dropped before. -/
theorem build_keeps_placements_moved :
    MemoryImage.respond ⟨⟨.w32, .big⟩, [⟨0x1000, [0, 0, 48, 0, 0, 0, 0, 0, 0, 0, 0, 9, 0, 0, 0, 1, 7]⟩,
        ⟨0x800, [0, 0, 48, 0, 0, 0, 0, 0, 5, 0, 0, 0, 0, 0, 64, 3, 0, 0, 0, 9, 6]⟩], ⟨[]⟩⟩
      ⟨0x80c, 9⟩ = .ok [0, 0, 64, 3, 0, 0, 0, 9, 6] ∧
    (Architecture.readHeader ⟨.w32, .big⟩ 0x80c).Yields (MemoryImage.host
        ⟨⟨.w32, .big⟩, [⟨0x1000, [0, 0, 48, 0, 0, 0, 0, 0, 0, 0, 0, 9, 0, 0, 0, 1, 7]⟩,
          ⟨0x800, [0, 0, 48, 0, 0, 0, 0, 0, 5, 0, 0, 0, 0, 0, 64, 3, 0, 0, 0, 9, 6]⟩], ⟨[]⟩⟩)
      ⟨0x4000, .big, true, 8⟩ := by
  have hRun : (ImageBuilder.new ⟨.w32, .big⟩).performAll
      [.bytes 0x3000 [7], .moveTo 0x800, .object ⟨0x3000, .new, false, 0⟩ [.raw [5]],
        .abandon [], .object ⟨0x4000, .big, true, 8⟩ [.raw [6]]] =
        .ok ([0x1000, 0x800, 0x800, 0x80c, 0x80c], ⟨⟨⟨.w32, .big⟩,
          [⟨0x1000, [0, 0, 48, 0, 0, 0, 0, 0, 0, 0, 0, 9, 0, 0, 0, 1, 7]⟩], ⟨[]⟩⟩, 0x800,
          [0, 0, 48, 0, 0, 0, 0, 0, 5, 0, 0, 0, 0, 0, 64, 3, 0, 0, 0, 9, 6], none⟩) := by
    decide +kernel
  have hMem : (⟨0x80c, ⟨⟨0x4000, .big, true, 8⟩, [6]⟩⟩ : Placement) ∈
      (ImageBuilder.new ⟨.w32, .big⟩).placements [.bytes 0x3000 [7], .moveTo 0x800,
        .object ⟨0x3000, .new, false, 0⟩ [.raw [5]], .abandon [],
        .object ⟨0x4000, .big, true, 8⟩ [.raw [6]]] := by
    decide +kernel
  have hKept := (build_keeps_placements hRun rfl).2.1 _ hMem (by decide)
  exact ⟨hKept.1, hKept.2 (by decide) (by decide) (by decide) (by decide)⟩

end HeapInspector
