import HeapInspector.Proofs.Image.Segments
import HeapInspector.Proofs.Results.Still

/-! Parts of what an image serves. Where a range is served, every range within it is served from the same
segment, so a word that was read in a row of words is read on its own as well. -/
namespace HeapInspector

open Inquiry

variable {answer : Request → Response} {arch : Architecture} {address size : Nat} {data : Bytes}

/-- Bytes that were read are those of a response. -/
theorem Inquiry.response_of_yields_bytes (h : (bytes address size).Yields (.still answer) data) :
    answer ⟨address, size⟩ = .ok data := by
  have hRun := h []
  unfold bytes at hRun
  split at hRun
  · cases hAnswer : answer ⟨address, size⟩ with
    | error fault =>
        simp only [run, Host.still, hAnswer] at hRun
        cases hRun
    | ok found =>
        simp only [run, Host.still, hAnswer] at hRun
        split at hRun
        · exact congrArg _ (Except.ok.inj hRun)
        · cases hRun
  · cases hRun

namespace MemoryImage

variable {image : MemoryImage}

/-- A response is cut from one segment that has the whole range. -/
theorem exists_segment_of_respond {request : Request} (h : image.respond request = .ok data) :
    request.address + request.size < machineBound ∧
      ∃ segment ∈ image.segments, segment.covers request ∧ data = segment.slice request := by
  cases hFind : image.find? request with
  | none =>
      rw [respond, hFind] at h
      cases h
  | some found =>
      rw [respond, hFind] at h
      cases h
      unfold find? at hFind
      split at hFind
      · rename_i hReach
        obtain ⟨segment, hSegment, rfl⟩ := Option.map_eq_some_iff.mp hFind
        exact ⟨hReach, segment, List.mem_of_find?_eq_some hSegment,
          by simpa using List.find?_some hSegment, rfl⟩
      · cases hFind

/-- Where an image serves a range, it serves every part of it. -/
theorem Separated.serves_of_respond (hImage : image.Separated)
    (h : image.respond ⟨address, size⟩ = .ok data) : image.host.Serves address data := by
  obtain ⟨hReach, segment, hMem, hCovers, rfl⟩ := exists_segment_of_respond h
  rw [Segment.covers_iff, Segment.stop] at hCovers
  dsimp only at hReach hCovers
  have hHolds : segment.Holds address (segment.slice ⟨address, size⟩) := by
    refine ⟨segment.data.take (address - segment.base),
      (segment.data.drop (address - segment.base)).drop size, ?_, ?_⟩
    · rw [Segment.slice, List.append_assoc, List.take_append_drop, List.take_append_drop]
    · rw [List.length_take]
      omega
  apply hImage.serves hMem hHolds
  simp only [Segment.slice, List.length_take, List.length_drop]
  omega

theorem Separated.serves_of_yields (hImage : image.Separated)
    (h : (Inquiry.bytes address size).Yields image.host data) : image.host.Serves address data :=
  hImage.serves_of_respond (response_of_yields_bytes h)

end MemoryImage

/-- A part of the bytes, at its own address. -/
theorem Host.Serves.part {host : Host} (h : host.Serves address data) {offset : Nat}
    (hRange : offset + size ≤ data.length) :
    host.Serves (address + offset) ((data.drop offset).take size) := by
  have hSplit : data = data.take offset ++ ((data.drop offset).take size ++
      (data.drop offset).drop size) := by
    rw [List.take_append_drop, List.take_append_drop]
  have hLength : (data.take offset).length = offset := by
    rw [List.length_take]
    omega
  rw [hSplit] at h
  have hPart := h.right.left
  rw [hLength] at hPart
  exact hPart

theorem pieces_go_getElem? {α : Type} {list : List α} {count index : Nat} (h : index < count) :
    (pieces.go size count list)[index]? = some ((list.drop (index * size)).take size) := by
  induction count generalizing list index with
  | zero => exact absurd h (Nat.not_lt_zero _)
  | succ count ih =>
      cases index with
      | zero => simp [pieces.go]
      | succ index =>
          rw [pieces.go, List.getElem?_cons_succ, ih (by omega), List.drop_drop, Nat.succ_mul,
            Nat.add_comm size]

/-- What stands at an index comes from a whole piece, which lies within the bytes. -/
theorem piece_of_getElem? {β : Type} {view : Bytes → β} {index : Nat} {result : β}
    (h : ((pieces size data).map view)[index]? = some result) :
    index * size + size ≤ data.length ∧ view ((data.drop (index * size)).take size) = result := by
  have hIndex : index < data.length / size := by
    have hSome := (List.getElem?_eq_some_iff.mp h).1
    rwa [List.length_map, pieces_length] at hSome
  have hPiece : (pieces size data)[index]? = some ((data.drop (index * size)).take size) :=
    pieces_go_getElem? hIndex
  constructor
  · have hWhole := Nat.mul_le_of_le_div _ _ _ hIndex
    rwa [Nat.succ_mul] at hWhole
  · rw [List.getElem?_map, hPiece] at h
    exact Option.some.inj h

/-- Words that were read are those of bytes that are served. -/
theorem MemoryImage.Separated.serves_of_readWords {image : MemoryImage} (hImage : image.Separated)
    {count : Nat} {words : List Nat} (h : (arch.readWords address count).Yields image.host words) :
    ∃ data, image.host.Serves address data ∧
      words = (pieces arch.wordSize data).map arch.order.decode := by
  obtain ⟨size, _, hBehind⟩ := exists_yields_of_bind h
  obtain ⟨data, hData, hWords⟩ := exists_yields_of_bind hBehind
  refine ⟨data, hImage.serves_of_yields hData, hWords.unique ?_⟩
  apply yields_forEach
  rw [List.forall₂_map_right_iff, List.forall₂_same]
  intro piece hPiece
  apply Architecture.yields_decodeUnsigned
  rw [length_of_mem_pieces hPiece]
  exact arch.wordSize_le

/-- The words themselves are served in a row, as they would be written, and each is within the width. -/
theorem MemoryImage.Separated.serves_row {image : MemoryImage} (hImage : image.Separated) {count : Nat}
    {words : List Nat} (h : (arch.readWords address count).Yields image.host words) :
    image.host.Serves address (words.flatMap arch.encodeWord) ∧
      ∀ word ∈ words, word < arch.width.modulus := by
  obtain ⟨data, hServes, rfl⟩ := hImage.serves_of_readWords h
  have hPieces : ((pieces arch.wordSize data).map arch.order.decode).flatMap arch.encodeWord =
      (pieces arch.wordSize data).flatten := by
    rw [List.flatMap_map, List.flatMap_def]
    have hEach : (pieces arch.wordSize data).map (fun piece => arch.encodeWord (arch.order.decode piece)) =
        (pieces arch.wordSize data).map id :=
      List.map_congr_left fun piece hMem => arch.encodeWord_decode (length_of_mem_pieces hMem)
    rw [hEach, List.map_id]
  constructor
  · obtain ⟨behind, hBehind⟩ := pieces_flatten_prefix arch.wordSize data
    rw [← hBehind] at hServes
    rw [hPieces]
    exact hServes.left
  · intro word hMem
    obtain ⟨piece, hPiece, rfl⟩ := List.mem_map.mp hMem
    exact arch.decode_lt_modulus (length_of_mem_pieces hPiece)

namespace ObjectRef

variable {host : Host} {object : ObjectRef} {offset : Nat}

/-- The word that the bytes at an offset hold. -/
theorem yields_readWord_of_serves (h : object.Serves host offset data)
    (hLength : data.length = object.wordSize) :
    (object.readWord offset).Yields host (object.arch.order.decode data) := by
  have hReach := h.reachable
  rw [hLength] at hReach
  unfold readWord
  apply (Architecture.yields_offsetAddress hReach).bind
  apply (Host.Serves.bytes h hLength).bind
  apply Architecture.yields_decodeUnsigned
  rw [hLength]
  exact object.arch.wordSize_le

/-- A word of a row is read on its own. -/
theorem yields_readWord_of_readWords {image : MemoryImage} (hImage : image.Separated)
    {count index word : Nat} {words : List Nat}
    (h : (object.readWords offset count).Yields image.host words)
    (hWord : words[index]? = some word) :
    (object.readWord (offset + index * object.wordSize)).Yields image.host word := by
  obtain ⟨size, _, hBehind⟩ := exists_yields_of_bind h
  obtain ⟨found, hFound, hRow⟩ := exists_yields_of_bind hBehind
  have hAddress : found = object.address + offset := by
    have hRun := hFound []
    unfold addressAt Architecture.offsetAddress at hRun
    split at hRun
    · exact (Except.ok.inj hRun).symm
    · cases hRun
  subst hAddress
  obtain ⟨data, hServes, rfl⟩ := hImage.serves_of_readWords hRow
  obtain ⟨hEnd, hValue⟩ : index * object.wordSize + object.wordSize ≤ data.length ∧
      object.arch.order.decode ((data.drop (index * object.wordSize)).take object.wordSize) =
        word := piece_of_getElem? hWord
  have hPart : object.Serves image.host (offset + index * object.wordSize)
      ((data.drop (index * object.wordSize)).take object.wordSize) := by
    unfold Serves
    rw [← Nat.add_assoc]
    exact hServes.part hEnd
  rw [← hValue]
  apply yields_readWord_of_serves hPart
  rw [List.length_take, List.length_drop]
  omega

end ObjectRef

end HeapInspector
