import HeapInspector.Image
import HeapInspector.Proofs.Results.Reads
import Mathlib.Data.List.Pairwise

/-! What an image answers. Its segments lie apart, so at most one of them has the bytes of a range, and
every part of what a segment holds is served from that segment. An empty range can lie within several
segments, which all answer it alike. -/
namespace HeapInspector

namespace Segment

variable {segment first second : Segment} {address : Nat} {data : Bytes} {request : Request}

theorem isApart_iff :
    first.isApart second = true ↔ first.stop ≤ second.base ∨ second.stop ≤ first.base := by
  simp [isApart]

theorem isApart_comm (first second : Segment) : first.isApart second = second.isApart first := by
  unfold isApart
  rw [Bool.or_comm]

instance : Std.Symm fun first second : Segment => first.isApart second = true where
  symm first second hApart := by rw [isApart_comm, hApart]

theorem covers_iff : segment.covers request = true ↔
    segment.base ≤ request.address ∧ request.address + request.size ≤ segment.stop := by
  simp [covers]

/-- Only an empty range lies within two segments that are apart. -/
theorem slice_eq_of_isApart (hApart : first.isApart second = true) (hFirst : first.covers request)
    (hSecond : second.covers request) : first.slice request = second.slice request := by
  rw [covers_iff] at hFirst hSecond
  have hEmpty : request.size = 0 := by
    rcases isApart_iff.mp hApart with hBefore | hBehind
    · omega
    · omega
  simp [slice, hEmpty]

/-- The data lie in the segment, at the address. -/
def Holds (segment : Segment) (address : Nat) (data : Bytes) : Prop :=
  ∃ before after, segment.data = before ++ data ++ after ∧ address = segment.base + before.length

/-- Whatever is put behind what a segment holds. -/
theorem Holds.append {base : Nat} {held : Bytes} (h : Holds ⟨base, held⟩ address data)
    (more : Bytes) : Holds ⟨base, held ++ more⟩ address data := by
  obtain ⟨before, after, hData, hAddress⟩ := h
  have hHeld : held = before ++ data ++ after := hData
  exact ⟨before, after ++ more, by simp [hHeld], hAddress⟩

theorem Holds.covers (h : segment.Holds address data) {offset size : Nat}
    (hRange : offset + size ≤ data.length) : segment.covers ⟨address + offset, size⟩ := by
  obtain ⟨before, after, hData, hAddress⟩ := h
  rw [covers_iff, stop, hData, hAddress]
  simp only [List.length_append]
  omega

theorem Holds.covers_address (h : segment.Holds address data) (hData : data ≠ []) :
    segment.covers ⟨address, 1⟩ := by
  have hFirst : 0 + 1 ≤ data.length := List.length_pos_iff.mpr hData
  exact h.covers hFirst

theorem Holds.slice (h : segment.Holds address data) {offset size : Nat}
    (hRange : offset + size ≤ data.length) :
    segment.slice ⟨address + offset, size⟩ = (data.drop offset).take size := by
  obtain ⟨before, after, hData, hAddress⟩ := h
  have hOffset : address + offset - segment.base = before.length + offset := by omega
  unfold Segment.slice
  dsimp only
  rw [hOffset, hData, List.append_assoc, List.drop_length_add_append,
    List.drop_append_of_le_length (by omega),
    List.take_append_of_le_length (by rw [List.length_drop]; omega)]

end Segment

namespace MemoryImage

variable {image next : MemoryImage} {segment : Segment} {request : Request} {address base : Nat}
  {data : Bytes}

/-- No two segments share an address. -/
def Separated (image : MemoryImage) : Prop :=
  image.segments.Pairwise fun first second => first.isApart second = true

theorem separated_empty (arch : Architecture) : (empty arch).Separated := List.Pairwise.nil

/-- A new segment comes last, and is apart from all that are there. -/
theorem addSegment_eq_ok (h : image.addSegment base data = .ok next) :
    next = { image with segments := image.segments ++ [⟨base, data⟩] } ∧
      ∀ other ∈ image.segments, (⟨base, data⟩ : Segment).isApart other = true := by
  unfold addSegment at h
  dsimp only at h
  split at h
  · rename_i hAll
    cases h
    exact ⟨rfl, List.all_eq_true.mp hAll⟩
  · cases h

theorem Separated.addSegment (hImage : image.Separated) (h : image.addSegment base data = .ok next) :
    next.Separated := by
  obtain ⟨rfl, hApart⟩ := addSegment_eq_ok h
  unfold Separated
  rw [List.pairwise_append]
  refine ⟨hImage, List.pairwise_singleton _ _, ?_⟩
  intro other hOther added hAdded
  rw [List.mem_singleton.mp hAdded, Segment.isApart_comm]
  exact hApart other hOther

/-- Whichever segment is found first, the answer is the one of any segment that has the range. -/
theorem Separated.respond (hImage : image.Separated) (hMem : segment ∈ image.segments)
    (hCovers : segment.covers request) (hReach : request.address + request.size < machineBound) :
    image.respond request = .ok (segment.slice request) := by
  have hFind : image.find? request = some (segment.slice request) := by
    unfold find?
    rw [if_pos hReach]
    cases hFound : image.segments.find? (·.covers request) with
    | none =>
        have hNone := List.find?_eq_none.mp hFound segment hMem
        exact absurd hCovers hNone
    | some found =>
        have hFoundCovers : found.covers request := by simpa using List.find?_some hFound
        have hFoundMem := List.mem_of_find?_eq_some hFound
        rw [Option.map_some]
        -- Another segment than the given one may come first, if the range is empty.
        by_cases hSame : found = segment
        · rw [hSame]
        · have hApart := List.Pairwise.forall hImage hFoundMem hMem hSame
          rw [Segment.slice_eq_of_isApart hApart hFoundCovers hCovers]
  rw [MemoryImage.respond, hFind]

/-- What a segment holds can be read in any part, as far as machine words reach. -/
theorem Separated.serves (hImage : image.Separated) (hMem : segment ∈ image.segments)
    (hHolds : segment.Holds address data) (hReach : address + data.length < machineBound) :
    image.host.Serves address data := by
  constructor
  · exact hReach
  · intro past offset size hRange
    have hRequest : address + offset + size < machineBound := by omega
    change image.respond ⟨address + offset, size⟩ = _
    rw [hImage.respond hMem (hHolds.covers hRange) hRequest, hHolds.slice hRange]

end MemoryImage

end HeapInspector
