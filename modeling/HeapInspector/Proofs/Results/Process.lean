import HeapInspector.Host.Process
import HeapInspector.Proofs.Image.Parts
import HeapInspector.Proofs.RoundTrip.Objects

/-! A process in place of an image of its memory. The two hosts differ where the image fails: it refuses
ranges that leave a segment, and empty ranges outside of all segments. As long as it serves what is
asked, the process responds with the same bytes, so every later request is the same as well. -/
namespace HeapInspector

/-- The host served every request. -/
def Run.Served {α : Type} (run : Run α) : Prop :=
  ∀ exchange ∈ run.trace, ∃ bytes, exchange.response = .ok bytes

instance {α : Type} (run : Run α) : Decidable run.Served :=
  decidable_of_iff (∀ exchange ∈ run.trace, exchange.response.isOk = true) <|
    forall₂_congr fun exchange _ => by
      cases exchange.response <;> simp [Except.isOk, Except.toBool]

namespace Inquiry

variable {α : Type} {host other : Host} {i : Inquiry α}

/-- Whenever the first inquiry has every request served by the first host, the second one makes the same
requests of the other host, hears the same and comes to the same end. -/
def Repeats (host other : Host) (first second : Inquiry α) : Prop :=
  ∀ past, (first.run host past).Served → second.run other past = first.run host past

/-- A host that serves what another one serves can take its place. -/
theorem repeats_of_agree
    (hAgree : ∀ past request bytes, host past request = .ok bytes → other past request = .ok bytes)
    (i : Inquiry α) : Repeats host other i i := by
  intro past hServed
  induction i generalizing past with
  | done value => rfl
  | fail failure => rfl
  | read request resume ih =>
      obtain ⟨bytes, hBytes⟩ : ∃ bytes, host past request = .ok bytes :=
        hServed ⟨request, host past request⟩ List.mem_cons_self
      have hOther := hAgree past request bytes hBytes
      have hRest : ((resume (host past request)).run host (request :: past)).Served :=
        fun exchange hMem => hServed exchange (List.mem_cons_of_mem _ hMem)
      have hSame := ih (host past request) (request :: past) hRest
      simp only [run, hOther, hBytes] at hSame ⊢
      rw [hSame]

end Inquiry

namespace ProcessMemory

variable {memory : ProcessMemory} {image : MemoryImage}

/-- Every byte of the image lies on a mapped page, and the process holds it there. -/
structure Mirrors (memory : ProcessMemory) (image : MemoryImage) : Prop where
  mapped : ∀ segment ∈ image.segments, ∀ offset < segment.data.length,
    memory.isMapped (segment.base + offset)
  contents : ∀ segment ∈ image.segments, ∀ offset, (h : offset < segment.data.length) →
    memory.contents (segment.base + offset) = segment.data[offset]

/-- The reader copies the memory wherever all of a range is mapped. Of other ranges nothing is known. -/
def IsCopiedBy (memory : ProcessMemory) (reader : ProcessReader) : Prop :=
  ∀ past request, request.size ≠ 0 → request.address + request.size < machineBound →
    (∀ offset < request.size, memory.isMapped (request.address + offset)) →
    reader past request = .copied (memory.read request)

@[simp] theorem length_read (memory : ProcessMemory) (request : Request) :
    (memory.read request).length = request.size := by
  simp [read]

theorem mappedLength_eq {address size : Nat}
    (h : ∀ offset < size, memory.isMapped (address + offset)) :
    memory.mappedLength address size = size := by
  induction size generalizing address with
  | zero => rfl
  | succ size ih =>
      have hRest : memory.mappedLength (address + 1) size = size := by
        apply ih
        intro offset hOffset
        rw [Nat.add_assoc, Nat.add_comm 1]
        exact h (offset + 1) (by omega)
      rw [mappedLength, if_pos (by simpa using h 0 (Nat.zero_lt_succ _)), hRest]

/-- A process that is given by its pages is read as it has to be. -/
theorem isCopiedBy_running (memory : ProcessMemory) :
    memory.IsCopiedBy (ProcessState.running memory).reader := by
  intro past request hSize _ hMapped
  simp only [ProcessState.reader, ProcessState.transfer, mappedLength_eq hMapped, if_neg hSize]

/-- A range that is mapped is served with the memory there. -/
theorem IsCopiedBy.host_eq {reader : ProcessReader} (h : memory.IsCopiedBy reader) (past : List Request)
    {request : Request} (hReach : request.address + request.size < machineBound)
    (hMapped : ∀ offset < request.size, memory.isMapped (request.address + offset)) :
    reader.host past request = .ok (memory.read request) := by
  rw [ProcessReader.host]
  split
  case isTrue hEmpty =>
    have hNone : memory.read request = [] := List.eq_nil_of_length_eq_zero (by simp [hEmpty])
    rw [hNone]
  case isFalse hSize =>
    rw [h past request hSize hReach hMapped, Transfer.response, if_pos (length_read memory request)]

/-- A range within a segment is mapped, and holds what the segment has there. -/
theorem Mirrors.segment (h : memory.Mirrors image) {segment : Segment} {request : Request}
    (hMem : segment ∈ image.segments) (hCovers : segment.covers request) :
    (∀ offset < request.size, memory.isMapped (request.address + offset)) ∧
      memory.read request = segment.slice request := by
  rw [Segment.covers_iff, Segment.stop] at hCovers
  have hAddress (offset : Nat) :
      request.address + offset = segment.base + (request.address - segment.base + offset) := by
    omega
  constructor
  · intro offset hOffset
    rw [hAddress]
    exact h.mapped segment hMem _ (by omega)
  · apply List.ext_getElem
    · simp only [length_read, Segment.slice, List.length_take, List.length_drop]
      omega
    · intro index hIndex _
      have hOffset : index < request.size := by simpa using hIndex
      simp only [read, Segment.slice, List.getElem_map, List.getElem_range, List.getElem_take,
        List.getElem_drop, hAddress]
      exact h.contents segment hMem _ (by omega)

/-- What the image serves, the process serves. -/
theorem Mirrors.host_eq (h : memory.Mirrors image) {reader : ProcessReader}
    (hReader : memory.IsCopiedBy reader) (past : List Request) {request : Request} {bytes : Bytes}
    (hImage : image.respond request = .ok bytes) : reader.host past request = .ok bytes := by
  obtain ⟨hReach, segment, hMem, hCovers, rfl⟩ := MemoryImage.exists_segment_of_respond hImage
  obtain ⟨hMapped, hSlice⟩ := h.segment hMem hCovers
  rw [hReader.host_eq past hReach hMapped, hSlice]

end ProcessMemory

/-- The image of a process and the process itself tell the same. Where the process has the bytes of the
image on its pages, its reader copies what is mapped, and the same addresses have the same names,
describing a word, its value, locating its fields and going through them come to the same end over both,
after the same requests, as long as the image serves every request. How the reader takes a range that is
not mapped as a whole does not matter. -/
theorem process_repeats_image {image : MemoryImage} {memory : ProcessMemory} {reader : ProcessReader}
    {table : TypeTable} (hMirrors : memory.Mirrors image) (hReader : memory.IsCopiedBy reader)
    (hNames : ∀ address, table.nameOf address = image.types.nameOf address)
    (registry : Registry) (word : Nat) :
    Inquiry.Repeats image.host reader.host
      ((image.introspector registry).describe word)
      (Introspector.describe ⟨image.arch, table.nameOf, registry⟩ word) ∧
    ∀ d : ObjectDescription,
      Inquiry.Repeats image.host reader.host d.value d.value ∧
      Inquiry.Repeats image.host reader.host d.fields d.fields ∧
      ∀ fields, d.fields.Yields image.host fields →
        Inquiry.Repeats image.host reader.host fields.all fields.all ∧
        ∀ index < fields.count,
          Inquiry.Repeats image.host reader.host (fields.field index) (fields.field index) := by
  have hAgree (past : List Request) (request : Request) (bytes : Bytes)
      (hImage : image.host past request = .ok bytes) : reader.host past request = .ok bytes :=
    hMirrors.host_eq hReader past hImage
  have hTable : table.nameOf = image.types.nameOf := funext hNames
  constructor
  · rw [hTable]
    exact Inquiry.repeats_of_agree hAgree _
  · intro d
    refine ⟨Inquiry.repeats_of_agree hAgree _, Inquiry.repeats_of_agree hAgree _, ?_⟩
    intro fields _
    exact ⟨Inquiry.repeats_of_agree hAgree _, fun index _ => Inquiry.repeats_of_agree hAgree _⟩

/-- A tuple, and a string in it whose header runs across the border of two pages. -/
def MemoryImage.acrossPages : MemoryImage :=
  ⟨⟨.w32, .big⟩,
    [⟨0x1010, [0x3000, 0, 7, 0x1ffc, 15].flatMap (Architecture.encodeWord ⟨.w32, .big⟩)⟩,
      ⟨0x1ffc, [0x3100, 0, 10, 8].flatMap (Architecture.encodeWord ⟨.w32, .big⟩) ++ [0x68, 0x69]⟩],
    ⟨[(0x3000, "type_Tuple"), (0x3100, "type_String")]⟩⟩

/-- The two pages in a process, which has other bytes around the objects. -/
def ProcessMemory.acrossPages : ProcessMemory :=
  ⟨[0x1000, 0x2000], fun address => (MemoryImage.acrossPages.byte? address).getD 0xff⟩

/-- The process has the names in another order. The header of the string is read from both pages, and
the tuple shows its two elements. -/
theorem process_repeats_image_across_pages :
    let process := ProcessState.running .acrossPages
    let table : TypeTable := ⟨[(0x3100, "type_String"), (0x3000, "type_Tuple")]⟩
    let tuple : ObjectRef := ⟨⟨.w32, .big⟩, 0x1010, .ofWords 0x3000 0⟩
    ProcessMemory.Mirrors .acrossPages .acrossPages ∧
    ProcessMemory.IsCopiedBy .acrossPages process.reader ∧
    (∀ address, table.nameOf address = MemoryImage.acrossPages.types.nameOf address) ∧
    ((Introspector.describe ⟨⟨.w32, .big⟩, table.nameOf, .builtin⟩ 0x1ffc).run
        process.host []).requests = [⟨0x1ffc, 8⟩] ∧
    ((Decoder.elements tuple 2).all.run process.host []).outcome =
      .ok [⟨"[0]", .tagged (.reference 0x1ffc)⟩, ⟨"[1]", .tagged (.smallInt 7)⟩] := by
  intro process table tuple
  have hMirrors : ProcessMemory.Mirrors .acrossPages .acrossPages :=
    ⟨by decide +kernel, by decide +kernel⟩
  have hNames (address : Nat) :
      table.nameOf address = MemoryImage.acrossPages.types.nameOf address := by
    by_cases hString : address = 0x3100
    · rw [hString]
      rfl
    · have hOther : (address == 0x3100) = false := beq_eq_false_iff_ne.mpr hString
      simp only [table, TypeTable.nameOf, MemoryImage.acrossPages, List.lookup_cons, hOther,
        List.lookup_nil]
  have hReader := ProcessMemory.isCopiedBy_running .acrossPages
  have hBoth := process_repeats_image hMirrors hReader hNames .builtin 0x1ffc
  have hDescribe := hBoth.1 [] (by decide +kernel)
  have hCount : ((Decoder.readElementCount tuple).run MemoryImage.acrossPages.host []).outcome =
      .ok 2 := by decide +kernel
  have hFields : (Decoder.slots.fields tuple).Yields MemoryImage.acrossPages.host
      (Decoder.elements tuple 2) := (Inquiry.yields_of_outcome hCount).bind (.pure _)
  have hTuple := (hBoth.2 ⟨tuple, .named "type_Tuple", .slots⟩).2.2 _ hFields
  have hElements := hTuple.1 [] (by decide +kernel)
  refine ⟨hMirrors, hReader, hNames, ?_, ?_⟩
  · exact (congrArg Run.requests hDescribe).trans (by decide +kernel)
  · exact (congrArg Run.outcome hElements).trans (by decide +kernel)

end HeapInspector
