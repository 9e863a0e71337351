import HeapInspector.Proofs.Image.Parts

/-! Images made of many segments. The order in which segments are added decides nothing: neither whether
two of them overlap nor what is answered. A range is answered if it is mapped as a whole and no segment
ends within it, and so is every part of such a range. Segments that touch are not joined. -/
namespace HeapInspector

namespace Segment

variable {segment other : Segment} {address size : Nat} {request : Request}

/-- The segment has a byte at the address. -/
def Has (segment : Segment) (address : Nat) : Prop :=
  segment.base ≤ address ∧ address < segment.stop

/-- The segment ends within the range, behind its first byte and before its last one is over. -/
def EndsWithin (segment : Segment) (address size : Nat) : Prop :=
  address < segment.stop ∧ segment.stop < address + size

theorem has_of_covers (h : segment.covers ⟨address, size⟩) {offset : Nat} (hOffset : offset < size) :
    segment.Has (address + offset) := by
  rw [covers_iff] at h
  dsimp only at h
  unfold Has
  omega

/-- A range that goes on behind the segment of its first byte has a border in it. -/
theorem covers_of_has (h : segment.Has address) (hBorder : ¬ segment.EndsWithin address size) :
    segment.covers ⟨address, size⟩ := by
  rw [covers_iff]
  unfold Has at h
  unfold EndsWithin at hBorder
  dsimp only
  omega

/-- Neither the segment of a range nor one apart from it ends within the range. -/
theorem not_endsWithin_of_covers (h : segment.covers ⟨address, size⟩)
    (hOther : other = segment ∨ segment.isApart other = true) : ¬ other.EndsWithin address size := by
  rw [covers_iff] at h
  dsimp only at h
  have hStop : other.base ≤ other.stop := Nat.le_add_right _ _
  unfold EndsWithin
  rcases hOther with rfl | hApart
  · omega
  · rcases isApart_iff.mp hApart with hBefore | hBehind
    · omega
    · omega

theorem slice_length (h : segment.covers request) : (segment.slice request).length = request.size := by
  rw [covers_iff, stop] at h
  simp only [slice, List.length_take, List.length_drop]
  omega

/-- The bytes of a range are those of the segment at their addresses. -/
theorem slice_getElem? (h : segment.covers ⟨address, size⟩) {index : Nat} (hIndex : index < size) :
    (segment.slice ⟨address, size⟩)[index]? = segment.data[address + index - segment.base]? := by
  rw [covers_iff] at h
  dsimp only at h
  have hOffset : address - segment.base + index = address + index - segment.base := by omega
  rw [slice, List.getElem?_take_of_lt hIndex, List.getElem?_drop, hOffset]

end Segment

namespace MemoryImage

variable {image other next : MemoryImage} {arch : Architecture} {segment : Segment}
  {list first second : List Segment} {request : Request} {address size : Nat} {data : Bytes}

/-- Adds segments in order, up to the first one that overlaps with one before it. -/
def addAll (image : MemoryImage) (list : List Segment) : Except Defect MemoryImage :=
  list.foldlM (fun image segment => image.addSegment segment.base segment.data) image

/-- The segments of a list lie apart from each other. -/
def AllApart (list : List Segment) : Prop :=
  list.Pairwise fun first second => first.isApart second = true

theorem allApart_perm (h : first.Perm second) : AllApart first ↔ AllApart second :=
  h.pairwise_iff fun hApart => (Segment.isApart_comm _ _).trans hApart

theorem addAll_cons :
    image.addAll (segment :: list) = (image.addSegment segment.base segment.data >>= (addAll · list)) :=
  List.foldlM_cons

theorem addSegment_of_apart
    (h : ∀ other ∈ image.segments, segment.isApart other = true) :
    image.addSegment segment.base segment.data =
      .ok { image with segments := image.segments ++ [segment] } :=
  if_pos (List.all_eq_true.mpr h)

theorem addSegment_of_overlap (hMem : segment ∈ image.segments) {added : Segment}
    (h : ¬ added.isApart segment = true) :
    image.addSegment added.base added.data = .error (.overlappingSegment added.base) :=
  if_neg fun hAll => h (List.all_eq_true.mp hAll segment hMem)

theorem addAll_of_allApart (h : AllApart (image.segments ++ list)) :
    image.addAll list = .ok { image with segments := image.segments ++ list } := by
  induction list generalizing image with
  | nil => simp [addAll, pure, Except.pure]
  | cons added rest ih =>
      have hApart : ∀ other ∈ image.segments, added.isApart other = true := by
        intro other hOther
        rw [Segment.isApart_comm]
        exact (List.pairwise_append.mp h).2.2 other hOther added List.mem_cons_self
      let next : MemoryImage := { image with segments := image.segments ++ [added] }
      have hNext : AllApart (next.segments ++ rest) := by
        rw [List.append_cons] at h
        exact h
      have hAdded : image.addSegment added.base added.data = .ok next := addSegment_of_apart hApart
      rw [addAll_cons, hAdded, List.append_cons]
      exact ih hNext

theorem addAll_of_overlap (hImage : image.Separated) (h : ¬ AllApart (image.segments ++ list)) :
    ∃ base, image.addAll list = .error (.overlappingSegment base) := by
  induction list generalizing image with
  | nil =>
      rw [List.append_nil] at h
      exact absurd hImage h
  | cons added rest ih =>
      rw [addAll_cons]
      by_cases hApart : ∀ other ∈ image.segments, added.isApart other = true
      · have hAdded := addSegment_of_apart hApart
        rw [List.append_cons] at h
        rw [hAdded]
        exact ih (hImage.addSegment hAdded) h
      · push Not at hApart
        obtain ⟨other, hMem, hOverlap⟩ := hApart
        rw [addSegment_of_overlap hMem hOverlap]
        exact ⟨added.base, rfl⟩

/-- Segments that lie apart make an image of exactly these segments. -/
theorem addAll_empty_eq_ok_iff :
    (empty arch).addAll list = .ok image ↔ AllApart list ∧ image = { empty arch with segments := list } := by
  by_cases hApart : AllApart list
  · have hRun : (empty arch).addAll list = .ok { empty arch with segments := list } :=
      addAll_of_allApart hApart
    rw [hRun, Except.ok.injEq, eq_comm]
    exact ⟨fun hImage => ⟨hApart, hImage⟩, And.right⟩
  · obtain ⟨base, hRun⟩ := addAll_of_overlap (separated_empty arch) hApart
    rw [hRun]
    exact ⟨nofun, fun h => absurd h.1 hApart⟩

/-- All other segments make none, and the one to blame is one that overlaps. -/
theorem addAll_empty_fails_iff :
    (∃ base, (empty arch).addAll list = .error (.overlappingSegment base)) ↔ ¬ AllApart list := by
  constructor
  · rintro ⟨base, hRun⟩ hApart
    have hOk : (empty arch).addAll list = .ok { empty arch with segments := list } :=
      addAll_of_allApart hApart
    cases hRun.symm.trans hOk
  · exact addAll_of_overlap (separated_empty arch)

theorem separated_of_addAll (h : (empty arch).addAll list = .ok image) : image.Separated := by
  obtain ⟨hApart, rfl⟩ := addAll_empty_eq_ok_iff.mp h
  exact hApart

theorem segments_of_addAll (h : (empty arch).addAll list = .ok image) : image.segments = list := by
  obtain ⟨_, rfl⟩ := addAll_empty_eq_ok_iff.mp h
  rfl

/-- An image has one answer to what it does not have. -/
theorem respond_eq_ok_or_refused (image : MemoryImage) (request : Request) :
    (∃ data, image.respond request = .ok data) ∨
      image.respond request = .error ⟨request.address, request.size, "address range is not mapped"⟩ := by
  cases hFind : image.find? request with
  | some data => exact .inl ⟨data, by rw [respond, hFind]⟩
  | none => exact .inr (by rw [respond, hFind])

/-- The answer hangs on the segments, and not on their order. -/
theorem Separated.respond_of_subset (hOther : other.Separated)
    (hSubset : ∀ segment ∈ image.segments, segment ∈ other.segments)
    (h : image.respond request = .ok data) : other.respond request = .ok data := by
  obtain ⟨hReach, segment, hMem, hCovers, rfl⟩ := exists_segment_of_respond h
  exact hOther.respond (hSubset segment hMem) hCovers hReach

theorem Separated.respond_congr (hImage : image.Separated) (hOther : other.Separated)
    (hSame : ∀ segment, segment ∈ image.segments ↔ segment ∈ other.segments) (request : Request) :
    image.respond request = other.respond request := by
  rcases image.respond_eq_ok_or_refused request with ⟨data, hData⟩ | hRefused
  · rw [hData, hOther.respond_of_subset (fun segment => (hSame segment).mp) hData]
  · rcases other.respond_eq_ok_or_refused request with ⟨data, hData⟩ | hBoth
    · rw [hData, hImage.respond_of_subset (fun segment => (hSame segment).mpr) hData]
    · rw [hRefused, hBoth]

theorem respond_length (h : image.respond request = .ok data) : data.length = request.size := by
  obtain ⟨_, segment, _, hCovers, rfl⟩ := exists_segment_of_respond h
  exact Segment.slice_length hCovers

/-- No two segments have the same address. -/
theorem Separated.eq_of_has (hImage : image.Separated) (hMem : segment ∈ image.segments)
    (hHas : segment.Has address) {found : Segment} (hFound : found ∈ image.segments)
    (hAlso : found.Has address) : segment = found := by
  by_contra hOther
  have hApart := List.Pairwise.forall hImage hMem hFound hOther
  unfold Segment.Has at hHas hAlso
  rcases Segment.isApart_iff.mp hApart with hBefore | hBehind
  · omega
  · omega

/-- The order in which segments are added does not matter. If two of them overlap, adding them stops in
every order; otherwise every range is answered alike, empty ranges and empty segments included. And where
a range is answered, each part of it is answered by that part of the bytes. -/
theorem segments_in_any_order (arch : Architecture) (hPerm : first.Perm second) :
    ((∃ base, (empty arch).addAll first = .error (.overlappingSegment base)) ↔
      ∃ base, (empty arch).addAll second = .error (.overlappingSegment base)) ∧
    (∀ image other, (empty arch).addAll first = .ok image → (empty arch).addAll second = .ok other →
      ∀ request, image.respond request = other.respond request) ∧
    ∀ image, (empty arch).addAll first = .ok image →
      ∀ address size data, image.respond ⟨address, size⟩ = .ok data →
        ∀ offset part, offset + part ≤ size →
          image.respond ⟨address + offset, part⟩ = .ok ((data.drop offset).take part) := by
  refine ⟨?_, ?_, ?_⟩
  · rw [addAll_empty_fails_iff, addAll_empty_fails_iff, allApart_perm hPerm]
  · intro image other hImage hOther
    apply (separated_of_addAll hImage).respond_congr (separated_of_addAll hOther)
    intro segment
    rw [segments_of_addAll hImage, segments_of_addAll hOther]
    exact hPerm.mem_iff
  · intro image hImage address size data hData offset part hPart
    have hServes := (separated_of_addAll hImage).serves_of_respond hData
    have hRange : offset + part ≤ data.length := by
      rw [respond_length hData]
      exact hPart
    exact hServes.response [] offset part hRange

/-- The empty segment lies on the border of two others, and an empty range there is within all three. -/
theorem segments_in_any_order_touching :
    let first : List Segment := [⟨0x10, [1, 2]⟩, ⟨0x12, []⟩, ⟨0x12, [3]⟩]
    let second : List Segment := [⟨0x12, [3]⟩, ⟨0x10, [1, 2]⟩, ⟨0x12, []⟩]
    first.Perm second ∧
    ∃ image other, (empty ⟨.w32, .little⟩).addAll first = .ok image ∧
      (empty ⟨.w32, .little⟩).addAll second = .ok other ∧
      image.respond ⟨0x12, 0⟩ = .ok [] ∧ other.respond ⟨0x12, 0⟩ = .ok [] ∧
      image.respond ⟨0x11, 1⟩ = .ok [2] := by
  intro first second
  have hPerm : first.Perm second := by decide
  have hAll := segments_in_any_order ⟨.w32, .little⟩ hPerm
  obtain ⟨image, hImage⟩ : ∃ image, (empty ⟨.w32, .little⟩).addAll first = .ok image := ⟨_, rfl⟩
  obtain ⟨other, hOther⟩ : ∃ other, (empty ⟨.w32, .little⟩).addAll second = .ok other := ⟨_, rfl⟩
  have hWhole : image.respond ⟨0x10, 2⟩ = .ok [1, 2] := by
    cases hImage
    rfl
  have hEmpty : image.respond ⟨0x12, 0⟩ = .ok [] := hAll.2.2 image hImage _ _ _ hWhole 2 0 (by decide)
  have hSecond : image.respond ⟨0x11, 1⟩ = .ok [2] := hAll.2.2 image hImage _ _ _ hWhole 1 1 (by decide)
  refine ⟨hPerm, image, other, hImage, hOther, hEmpty, ?_, hSecond⟩
  rw [← hAll.2.1 image other hImage hOther, hEmpty]

/-- An image answers a range if all of it is mapped and no segment ends within it. Each byte of the answer
is then the one that is mapped at its address. -/
theorem ranges_are_answered_up_to_borders (hRun : (empty arch).addAll list = .ok image)
    (hSize : 0 < size) (hReach : address + size < machineBound) :
    ((∃ data, image.respond ⟨address, size⟩ = .ok data) ↔
      (∀ offset < size, ∃ segment ∈ list, segment.Has (address + offset)) ∧
      ∀ segment ∈ list, ¬ segment.EndsWithin address size) ∧
    ∀ data, image.respond ⟨address, size⟩ = .ok data → data.length = size ∧
      ∀ index < size, ∀ segment ∈ list, segment.Has (address + index) →
        data[index]? = segment.data[address + index - segment.base]? := by
  have hImage := separated_of_addAll hRun
  have hSegments := segments_of_addAll hRun
  subst hSegments
  refine ⟨⟨?_, ?_⟩, ?_⟩
  · rintro ⟨data, hData⟩
    obtain ⟨_, segment, hMem, hCovers, _⟩ := exists_segment_of_respond hData
    constructor
    · intro offset hOffset
      exact ⟨segment, hMem, Segment.has_of_covers hCovers hOffset⟩
    · intro other hOther
      apply Segment.not_endsWithin_of_covers hCovers
      by_cases hSame : other = segment
      · exact .inl hSame
      · exact .inr (List.Pairwise.forall hImage hMem hOther (Ne.symm hSame))
  · rintro ⟨hMapped, hBorders⟩
    obtain ⟨segment, hMem, hHas⟩ := hMapped 0 hSize
    have hCovers := Segment.covers_of_has hHas (hBorders segment hMem)
    exact ⟨_, hImage.respond hMem hCovers hReach⟩
  · intro data hData
    refine ⟨respond_length hData, ?_⟩
    intro index hIndex segment hMem hHas
    obtain ⟨_, found, hFound, hCovers, rfl⟩ := exists_segment_of_respond hData
    have hSame := hImage.eq_of_has hMem hHas hFound (Segment.has_of_covers hCovers hIndex)
    rw [hSame, Segment.slice_getElem? hCovers hIndex]

/-- The range ends where the second segment does, and begins on the border to the first one. -/
theorem ranges_are_answered_up_to_borders_touching :
    let list : List Segment := [⟨0x1000, [1, 2]⟩, ⟨0x1002, [3, 4]⟩]
    ∃ image, (empty ⟨.w64, .little⟩).addAll list = .ok image ∧ 0x1002 + 2 < machineBound ∧
      ∃ data, image.respond ⟨0x1002, 2⟩ = .ok data ∧ data.length = 2 ∧ data[0]? = some 3 ∧
        data[1]? = some 4 := by
  intro list
  obtain ⟨image, hRun⟩ : ∃ image, (empty ⟨.w64, .little⟩).addAll list = .ok image := ⟨_, rfl⟩
  have hReach : 0x1002 + 2 < machineBound := by decide
  obtain ⟨hAnswered, hBytes⟩ := ranges_are_answered_up_to_borders hRun (by decide) hReach
  have hHas (offset : Nat) (hOffset : offset < 2) :
      (⟨0x1002, [3, 4]⟩ : Segment).Has (0x1002 + offset) :=
    ⟨Nat.le_add_right _ _, Nat.add_lt_add_left hOffset _⟩
  have hMem : ⟨0x1002, [3, 4]⟩ ∈ list := by simp [list]
  have hBorders : ∀ segment ∈ list, ¬ segment.EndsWithin 0x1002 2 := by
    simp [list, Segment.EndsWithin, Segment.stop]
  obtain ⟨data, hData⟩ := hAnswered.mpr ⟨fun offset hOffset => ⟨_, hMem, hHas offset hOffset⟩, hBorders⟩
  obtain ⟨hLength, hEach⟩ := hBytes data hData
  exact ⟨image, hRun, hReach, data, hData, hLength, hEach 0 (by decide) _ hMem (hHas 0 (by decide)),
    hEach 1 (by decide) _ hMem (hHas 1 (by decide))⟩

/-- Mapped is not enough. Both addresses have their byte, each in one of two segments that touch, and the
range of the two is refused as one that is not mapped. -/
theorem range_across_border_is_refused :
    let list : List Segment := [⟨0x1000, [1, 2]⟩, ⟨0x1002, [3, 4]⟩]
    ∃ image, (empty ⟨.w64, .little⟩).addAll list = .ok image ∧ 0x1001 + 2 < machineBound ∧
      (∀ offset < 2, ∃ segment ∈ list, segment.Has (0x1001 + offset)) ∧
      image.respond ⟨0x1001, 1⟩ = .ok [2] ∧ image.respond ⟨0x1002, 1⟩ = .ok [3] ∧
      image.respond ⟨0x1001, 2⟩ = .error ⟨0x1001, 2, "address range is not mapped"⟩ := by
  refine ⟨_, rfl, by decide, ?_, rfl, rfl, rfl⟩
  intro offset hOffset
  match offset, hOffset with
  | 0, _ => exact ⟨⟨0x1000, [1, 2]⟩, by simp, by decide, by decide⟩
  | 1, _ => exact ⟨⟨0x1002, [3, 4]⟩, by simp, by decide, by decide⟩

end MemoryImage

end HeapInspector
