import HeapInspector.Proofs.RoundTrip.ByLayout
import HeapInspector.Proofs.RoundTrip.Placements

/-! Type descriptors that were laid out. What a builder remembers of its past is one address, and it is
settled by the first descriptor that is named as the type of types: neither later descriptors nor moves
change it, and every descriptor behind it gets this address into its header. -/
namespace HeapInspector

open Inquiry

variable {arch : Architecture} {host : Host}

/-- The address that the first descriptor of the type of types was given, among steps and the addresses
that they returned. -/
def firstTypeOfTypes? (performed : List (BuildStep × Nat)) : Option Nat :=
  (performed.find? (·.1.isTypeOfTypes)).map (·.2)

theorem firstTypeOfTypes?_cons (step : BuildStep) (address : Nat) (rest : List (BuildStep × Nat)) :
    firstTypeOfTypes? ((step, address) :: rest) =
      (if step.isTypeOfTypes then some address else none).or (firstTypeOfTypes? rest) := by
  unfold firstTypeOfTypes?
  rw [List.find?_cons]
  cases step.isTypeOfTypes with
  | true => rfl
  | false => rfl

/-- It is an address that a step laid out an object at. -/
theorem exists_of_firstTypeOfTypes? {performed : List (BuildStep × Nat)} {address : Nat}
    (h : firstTypeOfTypes? performed = some address) :
    ∃ entry ∈ performed, entry.1.laysOut = true ∧ entry.2 = address := by
  obtain ⟨entry, hFind, hAddress⟩ := Option.map_eq_some_iff.mp h
  refine ⟨entry, List.mem_of_find?_eq_some hFind, ?_, hAddress⟩
  have hStep : entry.1.isTypeOfTypes = true :=
    List.find?_some (p := fun entry : BuildStep × Nat => entry.1.isTypeOfTypes) hFind
  cases hFirst : entry.1 with
  | typeDescriptor name slots bytes => rfl
  | _ =>
      rw [hFirst] at hStep
      cases hStep

/-- A size is read as it was declared only if the largest word is larger. -/
theorem PartSize.ofWord_eq_declared_iff {width : Width} {size : Option Nat} :
    PartSize.ofWord width (size.getD width.mask % width.modulus) = PartSize.declared size ↔
      ∀ n ∈ size, n < width.mask := by
  refine ⟨fun h n hSize => ?_, PartSize.ofWord_declared⟩
  obtain rfl : size = some n := hSize
  have hPositive := width.modulus_pos
  rw [Option.getD_some, PartSize.ofWord, PartSize.declared] at h
  split at h
  · cases h
  · rename_i hSigned
    have hWord : n % width.modulus = n := PartSize.fixed.inj h
    have hFits : n < width.modulus := hWord ▸ Nat.mod_lt n hPositive
    have hLast : n ≠ width.mask := by
      rintro rfl
      rw [hWord] at hSigned
      apply hSigned
      cases width <;> rfl
    unfold Width.mask at hLast ⊢
    omega

namespace ImageBuilder

variable {builder next final : ImageBuilder} {step : BuildStep} {steps : List BuildStep}
  {address index : Nat} {addresses : List Nat} {image : MemoryImage} {name : String}
  {slots bytes : Option Nat}

theorem flush_typeOfTypes (h : builder.flush = .ok next) : next.typeOfTypes = builder.typeOfTypes := by
  rcases flush_eq_ok h with ⟨_, rfl⟩ | ⟨image, _, rfl⟩
  · rfl
  · rfl

/-- A step settles the type of types if it lays out one and there was none before. -/
theorem perform_typeOfTypes (h : builder.perform step = .ok (address, next)) :
    next.typeOfTypes =
      builder.typeOfTypes.or (if step.isTypeOfTypes then some address else none) := by
  cases perform_effect h with
  | places hPlan hLaysOut hAddress hTypes hNext => rw [hNext]
  | moves hPlan hStep hFlush hNext =>
      have hFlushed := flush_typeOfTypes hFlush
      rw [hNext, hStep]
      exact hFlushed.trans Option.or_none.symm
  | names hPlan hStep hNext
  | pads hPlan hStep hNext =>
      rw [hNext, hStep]
      exact Option.or_none.symm

/-- The type of each descriptor of a run is the one that the steps before it have settled. -/
theorem descriptorPlan_mem_placements (h : builder.performAll steps = .ok (addresses, final))
    (hStep : steps[index]? = some (.typeDescriptor name slots bytes))
    (hAddress : addresses[index]? = some address) :
    ⟨address, descriptorPlan builder.arch ((builder.typeOfTypes.or
      (firstTypeOfTypes? ((steps.zip addresses).take index))).getD address) slots bytes⟩ ∈
      builder.placements steps := by
  induction steps generalizing builder addresses index with
  | nil => cases hStep
  | cons first rest ih =>
      obtain ⟨firstAddress, next, others, hFirst, hRest, rfl⟩ := performAll_cons_eq_ok h
      simp only [placements, hFirst]
      cases index with
      | zero =>
          cases hStep
          cases hAddress
          cases hFirst
          have hNone : firstTypeOfTypes? [] = none := rfl
          refine List.mem_append_left _ (List.mem_map.mpr ⟨_, Option.mem_toList.mpr rfl, ?_⟩)
          rw [List.take_zero, hNone, Option.or_none]
      | succ index =>
          have hLater := ih hRest hStep hAddress
          rw [perform_arch hFirst, perform_typeOfTypes hFirst, Option.or_assoc,
            ← firstTypeOfTypes?_cons] at hLater
          exact List.mem_append_right _ hLater

end ImageBuilder

/-- The header of an object that is served is read as it was written, if its addresses are aligned and
within the width. -/
theorem Host.Serves.header {address : Nat} {plan : ObjectPlan}
    (h : host.Serves address (plan.encode arch)) (hType : plan.header.typeAddress % 4 = 0)
    (hPointer : plan.header.gcPointer % 4 = 0) (hTypeFits : plan.header.typeAddress < arch.width.modulus)
    (hPointerFits : plan.header.gcPointer < arch.width.modulus) :
    (arch.readHeader address).Yields host plan.header := by
  obtain ⟨hFirst, hSecond⟩ := ObjectHeader.toWords_lt hType hPointer hTypeFits hPointerFits
  rw [ObjectPlan.encode_eq] at h
  have hHeader := Architecture.yields_readHeader h.left
  rwa [Nat.mod_eq_of_lt hFirst, Nat.mod_eq_of_lt hSecond,
    ObjectHeader.ofWords_toWords hType hPointer] at hHeader

/-- The type of a descriptor is at the place of a descriptor, which is aligned and within the width. -/
theorem typeOfDescriptor_placed {steps : List BuildStep} {addresses : List Nat} {index address : Nat}
    {name : String} {slots bytes : Option Nat}
    (hPlaces : ∀ entry ∈ steps.zip addresses, entry.1.laysOut = true →
      entry.2 % arch.wordSize = 0 ∧ entry.2 < arch.width.modulus)
    (hStep : steps[index]? = some (.typeDescriptor name slots bytes))
    (hAddress : addresses[index]? = some address) :
    (firstTypeOfTypes? ((steps.zip addresses).take index)).getD address % 4 = 0 ∧
      (firstTypeOfTypes? ((steps.zip addresses).take index)).getD address < arch.width.modulus := by
  obtain ⟨entry, hEntry, hLaysOut, hPlace⟩ : ∃ entry ∈ steps.zip addresses,
      entry.1.laysOut = true ∧
        entry.2 = (firstTypeOfTypes? ((steps.zip addresses).take index)).getD address := by
    cases hFirst : firstTypeOfTypes? ((steps.zip addresses).take index) with
    | none =>
        have hEntry : (steps.zip addresses)[index]? = some (.typeDescriptor name slots bytes, address) := by
          rw [List.getElem?_zip_eq_some]
          exact ⟨hStep, hAddress⟩
        exact ⟨_, List.mem_of_getElem? hEntry, rfl, rfl⟩
    | some first =>
        obtain ⟨entry, hMem, hLaysOut, hPlace⟩ := exists_of_firstTypeOfTypes? hFirst
        exact ⟨entry, List.mem_of_mem_take hMem, hLaysOut, hPlace⟩
  obtain ⟨hAligned, hFits⟩ := hPlaces entry hEntry hLaysOut
  rw [← hPlace]
  exact ⟨Nat.mod_eq_zero_of_dvd (arch.four_dvd_wordSize.trans (Nat.dvd_of_mod_eq_zero hAligned)), hFits⟩

/-- Each descriptor of a finished image has the type that its past gives it: the first descriptor before it
that is named as the type of types, and itself if there is none. It is old and not marked. Each of its two
sizes is read as it was declared, without regard to the other, exactly if it is no size or smaller than the
largest word. Addresses are unbounded here, and machine words in a builder: it cannot finish an object that
reaches beyond what they count. -/
theorem descriptors_have_first_type {steps : List BuildStep} {addresses : List Nat}
    {final : ImageBuilder} {image : MemoryImage}
    (hRun : (ImageBuilder.new arch).performAll steps = .ok (addresses, final))
    (hBuild : final.build = .ok image)
    (hPlaces : ∀ entry ∈ steps.zip addresses, entry.1.laysOut = true →
      entry.2 % arch.wordSize = 0 ∧ entry.2 < arch.width.modulus)
    {index address : Nat} {name : String} {slots bytes : Option Nat}
    (hStep : steps[index]? = some (.typeDescriptor name slots bytes))
    (hAddress : addresses[index]? = some address)
    (hReach : address + 8 * arch.wordSize < machineBound) :
    (arch.readHeader address).Yields image.host
      ⟨(firstTypeOfTypes? ((steps.zip addresses).take index)).getD address, .old, false, 0⟩ ∧
    ∃ layout, (TypeLayout.read arch address).Yields image.host layout ∧
      (layout.slots = PartSize.declared slots ↔ ∀ n ∈ slots, n < arch.width.mask) ∧
      (layout.bytes = PartSize.declared bytes ↔ ∀ n ∈ bytes, n < arch.width.mask) := by
  have hMem := ImageBuilder.descriptorPlan_mem_placements hRun hStep hAddress
  have hServes := ImageBuilder.build_serves hRun hBuild hMem
  have hPlan : ((ImageBuilder.new arch).typeOfTypes.or
      (firstTypeOfTypes? ((steps.zip addresses).take index))) =
        firstTypeOfTypes? ((steps.zip addresses).take index) := Option.none_or
  have hArch : (ImageBuilder.new arch).arch = arch := rfl
  rw [hPlan, hArch, ObjectPlan.encode_length, ImageBuilder.descriptorPlan,
    ImageBuilder.descriptorBody_length, Architecture.headerSize] at hServes
  have hType := typeOfDescriptor_placed hPlaces hStep hAddress
  constructor
  · exact (hServes (by omega)).header hType.1 rfl hType.2 arch.width.modulus_pos
  · have hBody := ImageBuilder.build_serves_descriptor hRun hBuild hStep hAddress hReach
    exact ⟨_, yields_readStoredLayout hBody, PartSize.ofWord_eq_declared_iff,
      PartSize.ofWord_eq_declared_iff⟩

/-- A type of types that a builder comes to after a move, in another spelling, and below an earlier
descriptor. A second one behind it has the first one as its type, and the earlier descriptor still has
itself. A number of slots that is no size does not hide that the bytes are extendable. -/
theorem descriptors_have_first_type_respelled :
    let arch : Architecture := ⟨.w32, .big⟩
    let steps : List BuildStep := [.typeDescriptor "Bool" none (some 1), .moveTo 0x800,
      .typeDescriptor "builtin/TYPE" (some 3) none, .bytes 0x900 [7],
      .typeDescriptor "type_Type" (some 0xFFFFFFFF) none]
    ∃ final image, (ImageBuilder.new arch).performAll steps =
        .ok ([0x1000, 0x800, 0x800, 0x820, 0x834], final) ∧ final.build = .ok image ∧
      (arch.readHeader 0x1000).Yields image.host ⟨0x1000, .old, false, 0⟩ ∧
      (arch.readHeader 0x834).Yields image.host ⟨0x800, .old, false, 0⟩ ∧
      ∃ layout, (TypeLayout.read arch 0x834).Yields image.host layout ∧
        layout.slots ≠ .fixed 0xFFFFFFFF ∧ layout.bytes = .extendable := by
  intro arch steps
  have hAddresses : ((ImageBuilder.new arch).performAll steps).map Prod.fst =
      .ok [0x1000, 0x800, 0x800, 0x820, 0x834] := by decide +kernel
  have hFinished : ((ImageBuilder.new arch).performAll steps >>= (·.2.build)).isOk = true := by
    decide +kernel
  cases hRun : (ImageBuilder.new arch).performAll steps with
  | error defect =>
      rw [hRun] at hAddresses
      cases hAddresses
  | ok result =>
      obtain ⟨addresses, final⟩ := result
      rw [hRun] at hAddresses hFinished
      cases hAddresses
      cases hBuild : final.build with
      | error defect =>
          change final.build.isOk = true at hFinished
          rw [hBuild] at hFinished
          cases hFinished
      | ok image =>
          have hPlaces : ∀ entry ∈ steps.zip [0x1000, 0x800, 0x800, 0x820, 0x834],
              entry.1.laysOut = true →
                entry.2 % arch.wordSize = 0 ∧ entry.2 < arch.width.modulus := by decide
          have hBool : steps[0]? = some (.typeDescriptor "Bool" none (some 1)) := rfl
          have hType : steps[4]? = some (.typeDescriptor "type_Type" (some 0xFFFFFFFF) none) := rfl
          obtain ⟨hFirst, _⟩ := descriptors_have_first_type hRun hBuild hPlaces hBool rfl (by decide)
          obtain ⟨hLast, layout, hLayout, hSlots, hBytes⟩ :=
            descriptors_have_first_type hRun hBuild hPlaces hType rfl (by decide)
          have hSettled : firstTypeOfTypes? ((steps.zip [0x1000, 0x800, 0x800, 0x820, 0x834]).take 4) =
              some 0x800 := by decide +kernel
          rw [hSettled] at hLast
          refine ⟨final, image, rfl, hBuild, hFirst, hLast, layout, hLayout, fun hSame => ?_,
            hBytes.mpr (by simp)⟩
          exact absurd (hSlots.mp hSame _ rfl) (by decide)

end HeapInspector
