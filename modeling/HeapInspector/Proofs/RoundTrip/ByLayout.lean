import HeapInspector.Proofs.Image.Names
import HeapInspector.Proofs.RoundTrip.Objects
import HeapInspector.Registry

/-! Objects of declared types. The decoder by layout finds both parts of an object from two places: the
sizes that the type declares, and the counts in front of parts that are extendable. Both counts
include themselves, and what they leave is what was laid out. -/
namespace HeapInspector

open Inquiry

variable {host : Host} {object : ObjectRef} {arch : Architecture} {slots bytes : Option Nat}
  {words : List Nat} {data part : Bytes}

/-- The words of a slot part: as many as declared, or a small integer that counts all of them and
itself. -/
inductive SlotsMatch (arch : Architecture) : Option Nat → List Nat → Prop where
  | fixed (words : List Nat) : SlotsMatch arch (some words.length) words
  | extendable {count : Nat} {rest : List Nat}
      (hCount : encodeSmallInt? arch.width (rest.length + 1) = some count) :
      SlotsMatch arch none (count :: rest)

/-- The data of a part of bytes, and the part: as many bytes as declared, or a word that holds the size
of the data and of itself. -/
inductive BytesMatch (arch : Architecture) : Option Nat → Bytes → Bytes → Prop where
  | fixed (data : Bytes) : BytesMatch arch (some data.length) data data
  | extendable (data : Bytes) :
      BytesMatch arch none data (arch.encodeWord (arch.wordSize + data.length) ++ data)

/-- What has to be shown: every word of the slot part, the count included, and the data if there are
any. -/
def layoutFields (width : Width) (words : List Nat) (data : Bytes) : List Field :=
  words.mapIdx (fun index word =>
    ⟨"slot[" ++ Numeral.decimal index ++ "]", .tagged (.classify width word)⟩) ++
  if data = [] then [] else [⟨"bytes", .bytes data⟩]

/-- The size of a part, as it is declared. -/
def PartSize.declared : Option Nat → PartSize
  | some size => .fixed size
  | none => .extendable

/-- A size in a descriptor is read as it was declared. The largest word is not a size. -/
theorem PartSize.ofWord_declared {width : Width} {size : Option Nat}
    (hSize : ∀ n ∈ size, n < width.mask) :
    PartSize.ofWord width (size.getD width.mask % width.modulus) = PartSize.declared size := by
  unfold PartSize.ofWord Width.toSigned
  cases size with
  | none => cases width <;> rfl
  | some n =>
      have hMask := hSize n rfl
      have hModulus : n % width.modulus = n := Nat.mod_eq_of_lt (by unfold Width.mask at hMask; omega)
      rw [Option.getD_some, hModulus, if_neg]
      · rfl
      · unfold Width.mask at hMask
        cases width <;> simp only [Width.modulus, Width.bits, Int.bmod] at * <;> omega

/-- The sizes stand behind the header and three words, each cut off at the width. -/
theorem yields_readStoredLayout {typeAddress : Nat}
    (hServes : host.Serves (typeAddress + arch.headerSize)
      (ImageBuilder.descriptorBody arch slots bytes)) :
    (TypeLayout.read arch typeAddress).Yields host
      ⟨PartSize.ofWord arch.width (slots.getD arch.width.mask % arch.width.modulus),
        PartSize.ofWord arch.width (bytes.getD arch.width.mask % arch.width.modulus)⟩ := by
  have hParts : ImageBuilder.descriptorBody arch slots bytes =
      [0, 0, 0].flatMap arch.encodeWord ++
        ([slots.getD arch.width.mask, bytes.getD arch.width.mask].flatMap arch.encodeWord ++
          [0].flatMap arch.encodeWord) := by
    simp [ImageBuilder.descriptorBody]
  rw [hParts] at hServes
  have hSizes := hServes.right.left
  rw [arch.flatMap_encodeWord_length, Nat.add_assoc] at hSizes
  have hReach := hSizes.reachable
  rw [arch.flatMap_encodeWord_length] at hReach
  unfold TypeLayout.read
  apply (Architecture.yields_offsetAddress hReach).bind
  apply (Architecture.yields_readWords hSizes rfl).bind
  exact .pure _

theorem yields_readTypeLayout {typeAddress : Nat}
    (hServes : host.Serves (typeAddress + arch.headerSize)
      (ImageBuilder.descriptorBody arch slots bytes))
    (hSlots : ∀ n ∈ slots, n < arch.width.mask) (hBytes : ∀ n ∈ bytes, n < arch.width.mask) :
    (TypeLayout.read arch typeAddress).Yields host
      ⟨PartSize.declared slots, PartSize.declared bytes⟩ := by
  rw [← PartSize.ofWord_declared hSlots, ← PartSize.ofWord_declared hBytes]
  exact yields_readStoredLayout hServes

theorem ImageBuilder.descriptorBody_length (arch : Architecture) (slots bytes : Option Nat) :
    (descriptorBody arch slots bytes).length = 6 * arch.wordSize :=
  arch.flatMap_encodeWord_length _

/-- The payload of a descriptor that a run lays out can be read in the finished image. -/
theorem ImageBuilder.build_serves_descriptor {steps : List BuildStep} {addresses : List Nat}
    {final : ImageBuilder} {image : MemoryImage}
    (hRun : (new arch).performAll steps = .ok (addresses, final)) (hBuild : final.build = .ok image)
    {index typeAddress : Nat} {name : String}
    (hStep : steps[index]? = some (.typeDescriptor name slots bytes))
    (hAddress : addresses[index]? = some typeAddress)
    (hReach : typeAddress + 8 * arch.wordSize < machineBound) :
    image.host.Serves (typeAddress + arch.headerSize) (descriptorBody arch slots bytes) := by
  obtain ⟨before, next, _, hBefore, _, _, hPlaced⟩ := performed_of_getElem? hRun hStep hAddress
  have hBeforeArch : before.arch = arch := hBefore
  have hMem := hPlaced _ rfl
  rw [hBeforeArch] at hMem
  have hPlan := build_serves hRun hBuild hMem
  rw [ObjectPlan.encode_length, descriptorPlan, descriptorBody_length, Architecture.headerSize] at hPlan
  let object : ObjectRef := ⟨arch, typeAddress, .ofWords 0 0⟩
  have hObject : image.host.Serves object.address (ObjectPlan.encode object.arch _) :=
    hPlan (by omega)
  exact ObjectRef.serves_body hObject

namespace Decoder

theorem yields_readSlotCount (hSlots : SlotsMatch object.arch slots words)
    (hServes : object.Serves host object.bodyOffset (words.flatMap object.arch.encodeWord))
    (hSize : words.length * object.wordSize ≤ maxPayloadSize) :
    (readSlotCount object (PartSize.declared slots)).Yields host words.length := by
  have hFits : words.length * object.wordSize < machineBound := hSize.trans_lt (by decide)
  have hCheck : (if words.length * object.wordSize < machineBound then do
        let _ ← object.checkPayloadSize (words.length * object.wordSize)
        return words.length
      else object.inconsistent (.implausibleSize words.length) : Inquiry Nat).Yields host
        words.length := by
    rw [if_pos hFits]
    exact (ObjectRef.yields_checkPayloadSize hSize).bind (.pure _)
  unfold readSlotCount
  cases hSlots with
  | fixed words => exact hCheck
  | @extendable count rest hCount =>
      have hStored := ObjectRef.yields_readWord (hServes.word 0 (Nat.zero_lt_succ _))
      obtain ⟨_, _, hWord⟩ := decodeSmallInt_of_encode hCount
      rw [Nat.zero_mul, Nat.add_zero, List.getElem_cons_zero, Nat.mod_eq_of_lt hWord] at hStored
      apply hStored.bind
      apply (ObjectRef.yields_expectSmallInt hCount).bind
      rw [if_neg (by omega)]
      exact hCheck

/-- The bytes are found behind the slots, and are the data without a size in front. -/
theorem yields_locateBytes (hBytes : BytesMatch object.arch bytes data part)
    (hServes : object.Serves host object.bodyOffset (words.flatMap object.arch.encodeWord ++ part))
    (hSize : data.length ≤ maxPayloadSize) :
    ∃ offset, (locateBytes object (PartSize.declared bytes) words.length).Yields host
        ⟨offset, data.length⟩ ∧ object.Serves host offset data := by
  have hPart := hServes.right
  rw [object.arch.flatMap_encodeWord_length] at hPart
  have hReach := hPart.reachable
  have hOffset : (object.bodyWordOffset words.length).Yields host _ :=
    ObjectRef.yields_bodyWordOffset (by unfold ObjectRef.wordSize; omega)
  unfold locateBytes
  cases hBytes with
  | fixed data =>
      refine ⟨_, ?_, hPart⟩
      apply hOffset.bind
      exact (ObjectRef.yields_checkPayloadSize hSize).bind (.pure _)
  | extendable data =>
      have hData := hPart.right
      rw [object.arch.encodeWord_length] at hData
      have hStart := hData.reachable
      have hTotal := ObjectRef.yields_readWord hPart.left
      have hModulus := object.arch.payload_lt_modulus hSize
      rw [Nat.mod_eq_of_lt (by omega)] at hTotal
      refine ⟨_, ?_, hData⟩
      apply hOffset.bind
      apply hTotal.bind
      rw [if_neg (by unfold ObjectRef.wordSize; omega)]
      apply (yields_natural (by unfold ObjectRef.wordSize; omega)).bind
      have hLess : object.arch.wordSize + data.length - object.wordSize = data.length :=
        Nat.add_sub_cancel_left _ _
      rw [hLess]
      exact (ObjectRef.yields_checkPayloadSize hSize).bind (.pure _)

theorem rawSlots_show
    (hServes : object.Serves host object.bodyOffset (words.flatMap object.arch.encodeWord)) :
    (rawSlots object words.length).Show host (words.mapIdx fun index word =>
      ⟨"slot[" ++ Numeral.decimal index ++ "]", .tagged (.classify object.arch.width word)⟩) := by
  constructor
  · simp [rawSlots]
  · intro index hIndex
    have hWord : index < words.length := by simpa using hIndex
    have hValue := ObjectRef.yields_bodyWord (fun word => FieldValue.tagged (object.classify word))
      hServes hWord
    have hField : ((rawSlots object words.length).field index).Yields host _ :=
      Fields.field_yields hValue
    simpa [ObjectRef.classify, rawSlots, slotName] using hField

theorem rawBytes_show {offset : Nat} (hServes : object.Serves host offset data) :
    (rawBytes object ⟨offset, data.length⟩).Show host
      (if data = [] then [] else [⟨"bytes", .bytes data⟩]) := by
  unfold rawBytes
  by_cases hEmpty : data = []
  · rw [if_pos hEmpty, if_pos (by simp [hEmpty])]
    exact Fields.show_none
  · rw [if_neg hEmpty, if_neg (by simpa using hEmpty)]
    exact Fields.show_one ((ObjectRef.yields_readBytes hServes rfl).bind (.pure _))

/-- An object that matches the layout of its type shows its slots, and then its data. -/
theorem byLayout_shows
    (hLayout : (TypeLayout.read object.arch object.header.typeAddress).Yields host
      ⟨PartSize.declared slots, PartSize.declared bytes⟩)
    (hSlots : SlotsMatch object.arch slots words) (hBytes : BytesMatch object.arch bytes data part)
    (hServes : object.Serves host object.bodyOffset (words.flatMap object.arch.encodeWord ++ part))
    (hSlotSize : words.length * object.wordSize ≤ maxPayloadSize)
    (hDataSize : data.length ≤ maxPayloadSize) :
    byLayout.Shows host object (layoutFields object.arch.width words data) := by
  have hWords := hServes.left
  obtain ⟨offset, hLocated, hData⟩ := yields_locateBytes hBytes hServes hDataSize
  refine ⟨rawSlots object words.length ++ rawBytes object ⟨offset, data.length⟩, ?_, ?_⟩
  · apply hLayout.bind
    apply (yields_readSlotCount hSlots hWords hSlotSize).bind
    exact hLocated.bind (.pure _)
  · exact (rawSlots_show hWords).append (rawBytes_show hData)

end Decoder

/-- The decoder by layout recovers each object of each declared type. The layout is that of a
descriptor the builder laid out, under a name without a registered decoder, and no later step gives
the type a name with one. The object may have any state, mark and pointer of the collector in its
header, and may have been placed by any step, before or after the descriptor. -/
theorem build_shows_layout {steps : List BuildStep} {addresses : List Nat} {final : ImageBuilder}
    {image : MemoryImage} (hRun : (ImageBuilder.new arch).performAll steps = .ok (addresses, final))
    (hBuild : final.build = .ok image) {index typeAddress : Nat} {name : String}
    (hDescriptor : steps[index]? = some (.typeDescriptor name slots bytes))
    (hTypeAddress : addresses[index]? = some typeAddress)
    (hSlotCount : ∀ n ∈ slots, n < arch.width.mask) (hByteCount : ∀ n ∈ bytes, n < arch.width.mask)
    (hTypePlace : arch.Accommodates typeAddress (8 * arch.wordSize)) {registry : Registry}
    (hUnregistered : registry.get? name = none)
    (hRenamed : ∀ later, .nameType typeAddress later ∈ steps.drop (index + 1) →
      registry.get? later = none)
    {address : Nat} {plan : ObjectPlan}
    (hInstance : ⟨address, plan⟩ ∈ (ImageBuilder.new arch).placements steps)
    (hType : plan.header.typeAddress = typeAddress)
    (hBody : plan.body = words.flatMap arch.encodeWord ++ part)
    (hSlots : SlotsMatch arch slots words) (hBytes : BytesMatch arch bytes data part)
    (hNonzero : address ≠ 0) (hPlace : arch.Accommodates address (plan.encode arch).length)
    (hSlotSize : words.length * arch.wordSize ≤ maxPayloadSize)
    (hDataSize : data.length ≤ maxPayloadSize) :
    image.Shows registry address (layoutFields arch.width words data) := by
  have hArch : image.arch = arch :=
    (ImageBuilder.build_arch hBuild).trans (ImageBuilder.performAll_arch hRun)
  have hServes := ImageBuilder.build_serves hRun hBuild hInstance hPlace.reachable
  have hLayout := yields_readTypeLayout (ImageBuilder.build_serves_descriptor hRun hBuild hDescriptor
    hTypeAddress hTypePlace.reachable) hSlotCount hByteCount
  have hTypeFits : typeAddress < arch.width.modulus :=
    hTypePlace.lt_modulus (Nat.mul_pos (by decide) arch.wordSize_pos)
  have hDecoder : registry.lookup (image.types.nameOf typeAddress) = .byLayout := by
    obtain ⟨current, hName, hGiven⟩ :=
      ImageBuilder.build_nameOf_descriptor hRun hBuild hDescriptor hTypeAddress
    have hNone : registry.get? current = none := by
      rcases hGiven with rfl | hLater
      · exact hUnregistered
      · exact hRenamed current hLater
    simp [Registry.lookup, hName, hNone]
  subst hArch hType
  apply MemoryImage.shows_of_serves hServes hNonzero hPlace hTypePlace.mod_four hTypeFits
  intro object hObject hHeader hPayload
  rw [hBody] at hPayload
  rw [hDecoder, ← hObject]
  rw [← hObject] at hLayout hSlots hBytes hSlotSize hPayload
  rw [← hHeader] at hLayout
  exact Decoder.byLayout_shows hLayout hSlots hBytes hPayload hSlotSize hDataSize

/-- A point with both parts extendable, behind the descriptor of its type. -/
theorem build_shows_layout_point :
    MemoryImage.Shows ⟨⟨.w64, .little⟩, [⟨0x1000, [2, 16, 0, 0, 0, 0, 0, 0, 0, 0, 0, 0, 0, 0, 0, 0,
        0, 0, 0, 0, 0, 0, 0, 0, 0, 0, 0, 0, 0, 0, 0, 0, 0, 0, 0, 0, 0, 0, 0, 0,
        255, 255, 255, 255, 255, 255, 255, 255, 255, 255, 255, 255, 255, 255, 255, 255,
        0, 0, 0, 0, 0, 0, 0, 0, 1, 16, 0, 0, 0, 0, 0, 0, 1, 0, 0, 0, 0, 0, 0, 0, 5, 0, 0, 0, 0, 0, 0, 0,
        7, 0, 0, 0, 0, 0, 0, 0, 11, 0, 0, 0, 0, 0, 0, 0, 1, 2, 3]⟩], ⟨[(0x1000, "Point")]⟩⟩ .builtin
      0x1040
      [⟨"slot[0]", .tagged (.smallInt 2)⟩, ⟨"slot[1]", .tagged (.smallInt 3)⟩,
        ⟨"bytes", .bytes [1, 2, 3]⟩] := by
  have hRun : (ImageBuilder.new ⟨.w64, .little⟩).performAll [.typeDescriptor "Point" none none,
      .object ⟨0x1000, .mid, true, 0⟩ [.smallInt 2, .word 7, .word 11, .raw [1, 2, 3]]] =
        .ok ([0x1000, 0x1040], ⟨⟨⟨.w64, .little⟩, [], ⟨[(0x1000, "Point")]⟩⟩, 0x1000,
          [2, 16, 0, 0, 0, 0, 0, 0, 0, 0, 0, 0, 0, 0, 0, 0,
            0, 0, 0, 0, 0, 0, 0, 0, 0, 0, 0, 0, 0, 0, 0, 0, 0, 0, 0, 0, 0, 0, 0, 0,
            255, 255, 255, 255, 255, 255, 255, 255, 255, 255, 255, 255, 255, 255, 255, 255,
            0, 0, 0, 0, 0, 0, 0, 0, 1, 16, 0, 0, 0, 0, 0, 0, 1, 0, 0, 0, 0, 0, 0, 0,
            5, 0, 0, 0, 0, 0, 0, 0, 7, 0, 0, 0, 0, 0, 0, 0, 11, 0, 0, 0, 0, 0, 0, 0, 1, 2, 3],
          none⟩) := by decide +kernel
  have hInstance : (⟨0x1040, ⟨⟨0x1000, .mid, true, 0⟩, [5, 0, 0, 0, 0, 0, 0, 0, 7, 0, 0, 0, 0, 0, 0, 0,
      11, 0, 0, 0, 0, 0, 0, 0, 1, 2, 3]⟩⟩ : Placement) ∈
        (ImageBuilder.new ⟨.w64, .little⟩).placements [.typeDescriptor "Point" none none,
          .object ⟨0x1000, .mid, true, 0⟩ [.smallInt 2, .word 7, .word 11, .raw [1, 2, 3]]] := by
    decide +kernel
  have hKey : TypeKey.ofName "Point" = ⟨"point"⟩ := by decide +kernel
  have hPoint : Registry.builtin.get? "Point" = none := by
    rw [Registry.get?, hKey]
    rfl
  have hFields : layoutFields .w64 [5, 7] [1, 2, 3] = [⟨"slot[0]", .tagged (.smallInt 2)⟩,
      ⟨"slot[1]", .tagged (.smallInt 3)⟩, ⟨"bytes", .bytes [1, 2, 3]⟩] := by decide +kernel
  have hSlots : SlotsMatch ⟨.w64, .little⟩ none [5, 7] := .extendable rfl
  have hBytes : BytesMatch ⟨.w64, .little⟩ none [1, 2, 3] [11, 0, 0, 0, 0, 0, 0, 0, 1, 2, 3] :=
    .extendable [1, 2, 3]
  have hDescriptor : ([.typeDescriptor "Point" none none, .object ⟨0x1000, .mid, true, 0⟩
      [.smallInt 2, .word 7, .word 11, .raw [1, 2, 3]]] : List BuildStep)[0]? =
        some (.typeDescriptor "Point" none none) := rfl
  rw [← hFields]
  exact build_shows_layout hRun rfl hDescriptor rfl (by simp) (by simp)
    (.of_lt (by decide) (by decide)) hPoint (by simp) hInstance rfl rfl hSlots hBytes (by decide)
    (.of_lt (by decide) (by decide)) (by decide) (by decide)

end HeapInspector
