import HeapInspector.Proofs.RoundTrip.Objects
import HeapInspector.Proofs.Utf8
import HeapInspector.Registry

/-! Objects of the built-in types with a payload of variable length. What a builder lays out for slots,
symbols, strings and bytes is what their decoders show, whatever the width, the byte order and the
place among other objects. -/
namespace HeapInspector

open Inquiry

variable {host : Host} {object : ObjectRef} {arch : Architecture}

/-- What is laid out behind the header of an object of a built-in type. -/
inductive Content where
  | slots (items : List Nat)
  | symbol (text : String) (hash : Nat)
  | string (text : String)
  | bytes (data : Bytes)

namespace Content

/-- The step that lays the content out, as an object of the type. -/
def step (typeAddress : Nat) : Content → BuildStep
  | slots items => .slots typeAddress items
  | symbol text hash => .symbol typeAddress text hash
  | string text => .string typeAddress text
  | bytes data => .bytes typeAddress data

/-- The keys of the types that the content is meant for. -/
def keys : Content → List TypeKey
  | slots _ => [⟨"tuple"⟩, ⟨"array_slots"⟩]
  | symbol _ _ => [⟨"symbol"⟩]
  | string _ => [⟨"string"⟩]
  | bytes _ => [⟨"bytes"⟩]

def decoder : Content → Decoder
  | slots _ => .slots
  | symbol _ _ => .symbol
  | string _ => .string
  | bytes _ => .bytes

/-- The number of words between the header and the data. -/
def fixedWords : Content → Nat
  | slots _ => 1
  | symbol _ _ => Decoder.symbolFixedWords
  | string _ => Decoder.textFixedWords
  | bytes _ => Decoder.bytesFixedWords

/-- The size of the data. The text of a symbol has zeros behind it, at least one, up to the next word. -/
def dataSize (arch : Architecture) : Content → Nat
  | slots items => items.length * arch.wordSize
  | symbol text _ => ((Utf8.encode text).length / arch.wordSize + 1) * arch.wordSize
  | string text => (Utf8.encode text).length
  | bytes data => data.length

/-- The size of an object with the content, its header included. -/
def objectSize (arch : Architecture) (content : Content) : Nat :=
  arch.headerSize + (content.fixedWords * arch.wordSize + content.dataSize arch)

/-- What has to be shown for the content. -/
def fields (width : Width) : Content → List Field
  | slots items => items.mapIdx fun index item =>
      ⟨"[" ++ Numeral.decimal index ++ "]", .tagged (.classify width item)⟩
  | symbol text hash =>
      [⟨"hash", .unsigned (hash % width.modulus)⟩, ⟨"registry_next", .tagged .null⟩,
        ⟨"text", .text (String.ofList (text.toList.takeWhile (· ≠ '\x00')))⟩]
  | string text =>
      [⟨"length", .unsigned (Utf8.encode text).length⟩, ⟨"element_size", .unsigned 1⟩,
        ⟨"text", .text text⟩]
  | bytes data => [⟨"size", .unsigned data.length⟩, ⟨"data", .bytes data⟩]

/-- The payload, unless there are more slots than a small integer can count. -/
def body (arch : Architecture) : Content → Except Defect Bytes
  | slots items => ImageBuilder.slotsBody arch items
  | symbol text hash => .ok (ImageBuilder.symbolBody arch text hash)
  | string text => .ok (ImageBuilder.stringBody arch text)
  | bytes data => .ok (ImageBuilder.bytesBody arch data)

end Content

namespace ImageBuilder

theorem mapM_encode_word (arch : Architecture) (words : List Nat) :
    (words.map BodyPart.word).mapM (BodyPart.encode arch) = .ok (words.map arch.encodeWord) := by
  induction words with
  | nil => rfl
  | cons word rest ih =>
      rw [List.map_cons, List.mapM_cons, ih]
      rfl

/-- Slots are a row of words, the count first. -/
theorem slotsBody_eq_ok {items : List Nat} {body : Bytes} (h : slotsBody arch items = .ok body) :
    ∃ count, encodeSmallInt? arch.width (items.length + 1) = some count ∧
      body = (count :: items).flatMap arch.encodeWord := by
  unfold slotsBody BodyPart.encodeAll at h
  rw [List.mapM_cons, mapM_encode_word] at h
  cases hCount : encodeSmallInt? arch.width (items.length + 1) with
  | none =>
      simp only [BodyPart.encode, hCount] at h
      cases h
  | some count =>
      simp only [BodyPart.encode, hCount] at h
      cases h
      exact ⟨count, rfl, by simp [List.flatMap_def]⟩

theorem symbolBody_eq (arch : Architecture) (text : String) (hash : Nat) :
    ∃ zeros : Nat, (Utf8.encode text).length + zeros = (Content.symbol text hash).dataSize arch ∧
      symbolBody arch text hash =
        [3 * arch.wordSize + (Content.symbol text hash).dataSize arch, 0, hash].flatMap
          arch.encodeWord ++ (Utf8.encode text ++ List.replicate zeros 0) := by
  have hWord := arch.wordSize_pos
  have hDivision := Nat.div_add_mod (Utf8.encode text).length arch.wordSize
  have hRest := Nat.mod_lt (Utf8.encode text).length hWord
  have hPadded : (Utf8.encode text).length ≤ (Content.symbol text hash).dataSize arch := by
    rw [Content.dataSize, Nat.succ_mul, Nat.mul_comm]
    omega
  refine ⟨(Content.symbol text hash).dataSize arch - (Utf8.encode text).length, by omega, ?_⟩
  simp [symbolBody, Content.dataSize]

theorem stringBody_eq (arch : Architecture) (text : String) :
    stringBody arch text =
      [2 * arch.wordSize + (Utf8.encode text).length, (Utf8.encode text).length * 4].flatMap
        arch.encodeWord ++ Utf8.encode text := by
  simp [stringBody]

theorem bytesBody_eq (arch : Architecture) (data : Bytes) :
    bytesBody arch data =
      [2 * arch.wordSize + data.length, data.length].flatMap arch.encodeWord ++ data := by
  simp [bytesBody]

end ImageBuilder

namespace Content

theorem body_length {content : Content} {body : Bytes} (h : content.body arch = .ok body) :
    body.length = content.fixedWords * arch.wordSize + content.dataSize arch := by
  cases content with
  | slots items =>
      obtain ⟨count, _, rfl⟩ := ImageBuilder.slotsBody_eq_ok h
      rw [arch.flatMap_encodeWord_length, List.length_cons, fixedWords, dataSize, Nat.succ_mul]
      omega
  | symbol text hash =>
      cases h
      obtain ⟨zeros, hSize, hBody⟩ := ImageBuilder.symbolBody_eq arch text hash
      rw [hBody, List.length_append, arch.flatMap_encodeWord_length, List.length_append,
        List.length_replicate, hSize]
      rfl
  | string text =>
      cases h
      rw [ImageBuilder.stringBody_eq, List.length_append, arch.flatMap_encodeWord_length]
      rfl
  | bytes data =>
      cases h
      rw [ImageBuilder.bytesBody_eq, List.length_append, arch.flatMap_encodeWord_length]
      rfl

/-- The step comes to a young object with the content behind its header, if there is a payload. -/
theorem action_step (builder : ImageBuilder) (content : Content) (typeAddress : Nat) :
    builder.action (content.step typeAddress) =
      (content.body builder.arch).map fun body => .place (.young typeAddress body) none := by
  cases content <;> rfl

/-- A step that succeeds places the payload. -/
theorem plan_of_perform {content : Content} {typeAddress address : Nat} {builder next : ImageBuilder}
    (h : builder.perform (content.step typeAddress) = .ok (address, next)) :
    ∃ body, content.body builder.arch = .ok body ∧
      builder.plan? (content.step typeAddress) = some (.young typeAddress body) := by
  obtain ⟨action, hAction, _⟩ := bind_eq_ok h
  rw [ImageBuilder.plan?, action_step]
  rw [action_step] at hAction
  cases hBody : content.body builder.arch with
  | error defect =>
      rw [hBody] at hAction
      cases hAction
  | ok body => exact ⟨body, rfl, rfl⟩

end Content

namespace Decoder

theorem elements_show {count : Nat} {items : List Nat}
    (hServes : object.Serves host object.bodyOffset ((count :: items).flatMap object.arch.encodeWord)) :
    (elements object items.length).Show host ((Content.slots items).fields object.arch.width) := by
  constructor
  · simp [Content.fields, elements]
  · intro index hIndex
    have hItem : index < items.length := by simpa [Content.fields] using hIndex
    have hWord := ObjectRef.yields_bodyWord (fun word => FieldValue.tagged (object.classify word))
      hServes (Nat.succ_lt_succ hItem)
    have hField : ((elements object items.length).field index).Yields host _ :=
      Fields.field_yields hWord
    simpa [Content.fields, ObjectRef.classify, elements, elementName] using hField

/-- The stored count leaves the elements behind it. -/
theorem yields_elementCount {length stored : Nat}
    (hCount : encodeSmallInt? object.arch.width (length + 1) = some stored)
    (hSize : length * object.wordSize ≤ maxPayloadSize) :
    (elementCount object stored).Yields host length := by
  have hLength : length ≤ length * object.wordSize :=
    Nat.le_mul_of_pos_right length object.arch.wordSize_pos
  have hFits : length * object.wordSize < machineBound := hSize.trans_lt (by decide)
  have hInteger : length < signedBound := (hLength.trans hSize).trans_lt (by decide)
  unfold elementCount
  apply (ObjectRef.yields_expectSmallInt hCount).bind
  rw [if_neg (by omega)]
  apply (yields_integer (by omega)).bind
  dsimp only
  rw [Int.add_sub_cancel, Int.toNat_natCast, if_pos hFits]
  exact (ObjectRef.yields_checkPayloadSize hSize).bind (.pure length)

theorem slots_shows {count : Nat} {items : List Nat}
    (hCount : encodeSmallInt? object.arch.width (items.length + 1) = some count)
    (hServes : object.Serves host object.bodyOffset ((count :: items).flatMap object.arch.encodeWord))
    (hSize : items.length * object.wordSize ≤ maxPayloadSize) :
    slots.Shows host object ((Content.slots items).fields object.arch.width) := by
  have hStored := ObjectRef.yields_readWord (ObjectRef.Serves.word hServes 0 (Nat.zero_lt_succ _))
  rw [Nat.zero_mul, Nat.add_zero] at hStored
  obtain ⟨_, _, hFits⟩ := decodeSmallInt_of_encode hCount
  rw [List.getElem_cons_zero, Nat.mod_eq_of_lt hFits] at hStored
  have hLength := hStored.bind (yields_elementCount hCount hSize)
  exact ⟨elements object items.length, hLength.bind (.pure _), elements_show hServes⟩

/-- The words in front of the data, the place of the data, and the data. -/
theorem serves_fixedWords {words : List Nat} {data : Bytes}
    (h : object.Serves host object.bodyOffset (words.flatMap object.arch.encodeWord ++ data)) :
    (object.readWords object.bodyOffset words.length).Yields host
        (words.map (· % object.arch.width.modulus)) ∧
      (object.bodyWordOffset words.length).Yields host
        (object.bodyOffset + words.length * object.wordSize) ∧
      (object.readBytes (object.bodyOffset + words.length * object.wordSize) data.length).Yields host
        data := by
  have hData := ObjectRef.Serves.right h
  have hReach := hData.reachable
  rw [object.arch.flatMap_encodeWord_length] at hData hReach
  have hOffset : object.bodyOffset + words.length * object.wordSize < machineBound := by
    unfold ObjectRef.wordSize
    omega
  refine ⟨ObjectRef.yields_readWords (ObjectRef.Serves.left h) rfl, ?_, ?_⟩
  · exact ObjectRef.yields_bodyWordOffset hOffset
  · exact ObjectRef.yields_readBytes hData rfl

theorem yields_decodeUtf8 {data : Bytes} {text : String} (h : Utf8.decode data = some text) :
    (decodeUtf8 object data).Yields host text := by
  rw [decodeUtf8, h]
  exact .pure text

theorem symbol_shows {text : String} {hash : Nat}
    (hServes : object.Serves host object.bodyOffset (ImageBuilder.symbolBody object.arch text hash))
    (hSize : (Content.symbol text hash).dataSize object.arch ≤ maxPayloadSize) :
    symbol.Shows host object ((Content.symbol text hash).fields object.arch.width) := by
  have hFits := object.arch.payload_lt_modulus hSize
  obtain ⟨zeros, hData, hBody⟩ := ImageBuilder.symbolBody_eq object.arch text hash
  rw [hBody] at hServes
  obtain ⟨hWords, hOffset, hRead⟩ := serves_fixedWords hServes
  rw [List.length_append, List.length_replicate, hData] at hRead
  -- The padded size is all that is known of the padding from here on.
  generalize (Content.symbol text hash).dataSize object.arch = size at *
  have hStored : (3 * object.arch.wordSize + size) % object.arch.width.modulus =
      3 * object.arch.wordSize + size := Nat.mod_eq_of_lt (by omega)
  have hText : (readSymbolText object (3 * object.arch.wordSize + size)).Yields host
      (String.ofList (text.toList.takeWhile (· ≠ '\x00'))) := by
    unfold readSymbolText
    apply ObjectRef.yields_dataExtent.bind
    apply (ObjectRef.yields_checkPayloadSize hSize).bind
    apply hOffset.bind
    apply hRead.bind
    exact yields_decodeUtf8 (Utf8.decode_takeWhile_encode text zeros)
  have hField : (do return .text (← readSymbolText object (3 * object.arch.wordSize + size)) :
      Inquiry FieldValue).Yields host _ := hText.bind (.pure _)
  simp only [List.map_cons, List.map_nil, hStored] at hWords
  exact ⟨_, hWords.bind (.pure _),
    (Fields.show_known.append Fields.show_known).append (Fields.show_one hField)⟩

/-- Elements of one byte, whatever text they are. -/
theorem string_shows_of_decode {data : Bytes} {text : String} (hDecode : Utf8.decode data = some text)
    (hServes : object.Serves host object.bodyOffset
      ([2 * object.arch.wordSize + data.length, data.length * 4].flatMap object.arch.encodeWord ++
        data))
    (hSize : data.length ≤ maxPayloadSize) :
    string.Shows host object [⟨"length", .unsigned data.length⟩, ⟨"element_size", .unsigned 1⟩,
      ⟨"text", .text text⟩] := by
  have hFits := object.arch.payload_lt_modulus hSize
  obtain ⟨hWords, hOffset, hRead⟩ := serves_fixedWords hServes
  have hStored : (2 * object.arch.wordSize + data.length) % object.arch.width.modulus =
      2 * object.arch.wordSize + data.length := Nat.mod_eq_of_lt (by omega)
  have hPacked : data.length * 4 % object.arch.width.modulus = data.length * 4 :=
    Nat.mod_eq_of_lt (by omega)
  have hUnpacked : PackedLength.unpack (data.length * 4) = ⟨1, data.length⟩ := by
    simp [PackedLength.unpack]
  simp only [List.map_cons, List.map_nil, hStored, hPacked] at hWords
  have hLayout : (readTextLayout object).Yields host (⟨1, data.length⟩, data.length) := by
    unfold readTextLayout
    apply hWords.bind
    dsimp only
    rw [hUnpacked]
    have hBound : data.length * 1 < machineBound := by
      rw [Nat.mul_one]
      exact hSize.trans_lt (by decide)
    have hNatural : (PackedLength.dataSize ⟨1, data.length⟩).Yields host (data.length * 1) :=
      yields_natural hBound
    rw [Nat.mul_one] at hNatural
    apply hNatural.bind
    exact (ObjectRef.yields_checkDataSize hSize).bind (.pure _)
  have hText : (readText object ⟨1, data.length⟩ data.length).Yields host text := by
    unfold readText
    apply hOffset.bind
    apply hRead.bind
    exact yields_decodeUtf8 hDecode
  have hField : (do return .text (← readText object ⟨1, data.length⟩ data.length) :
      Inquiry FieldValue).Yields host _ := hText.bind (.pure _)
  exact ⟨_, hLayout.bind (.pure _),
    (Fields.show_known.append Fields.show_known).append (Fields.show_one hField)⟩

theorem string_shows {text : String}
    (hServes : object.Serves host object.bodyOffset (ImageBuilder.stringBody object.arch text))
    (hSize : (Content.string text).dataSize object.arch ≤ maxPayloadSize) :
    string.Shows host object ((Content.string text).fields object.arch.width) := by
  rw [ImageBuilder.stringBody_eq] at hServes
  exact string_shows_of_decode (Utf8.decode_encode text) hServes hSize

theorem bytes_shows {data : Bytes}
    (hServes : object.Serves host object.bodyOffset (ImageBuilder.bytesBody object.arch data))
    (hSize : (Content.bytes data).dataSize object.arch ≤ maxPayloadSize) :
    bytes.Shows host object ((Content.bytes data).fields object.arch.width) := by
  have hFits := object.arch.payload_lt_modulus hSize
  rw [ImageBuilder.bytesBody_eq] at hServes
  obtain ⟨hWords, hOffset, hRead⟩ := serves_fixedWords hServes
  simp only [Content.dataSize] at hSize hFits
  have hStored : (2 * object.arch.wordSize + data.length) % object.arch.width.modulus =
      2 * object.arch.wordSize + data.length := Nat.mod_eq_of_lt (by omega)
  have hLength : data.length % object.arch.width.modulus = data.length :=
    Nat.mod_eq_of_lt (by omega)
  simp only [List.map_cons, List.map_nil, hStored, hLength] at hWords
  have hLayout : (readBytesLayout object).Yields host data.length := by
    unfold readBytesLayout
    apply hWords.bind
    exact ObjectRef.yields_checkDataSize hSize
  have hData : (readData object data.length).Yields host data := hOffset.bind hRead
  have hField : (do return .bytes (← readData object data.length) : Inquiry FieldValue).Yields
      host _ := hData.bind (.pure _)
  exact ⟨_, hLayout.bind (.pure _), Fields.show_known.append (Fields.show_one hField)⟩

end Decoder

namespace Content

variable {content : Content}

theorem shows {body : Bytes} (hBody : content.body object.arch = .ok body)
    (hServes : object.Serves host object.bodyOffset body)
    (hSize : content.dataSize object.arch ≤ maxPayloadSize) :
    content.decoder.Shows host object (content.fields object.arch.width) := by
  cases content with
  | slots items =>
      obtain ⟨count, hCount, rfl⟩ := ImageBuilder.slotsBody_eq_ok hBody
      exact Decoder.slots_shows hCount hServes hSize
  | symbol text hash =>
      cases hBody
      exact Decoder.symbol_shows hServes hSize
  | string text =>
      cases hBody
      exact Decoder.string_shows hServes hSize
  | bytes data =>
      cases hBody
      exact Decoder.bytes_shows hServes hSize

theorem lookup_builtin {name : String} (hKey : TypeKey.ofName name ∈ content.keys) :
    Registry.builtin.lookup (some name) = content.decoder := by
  have hLookup : Registry.builtin.lookup (some name) =
      (Registry.builtin.entries.lookup (TypeKey.ofName name)).getD Decoder.byLayout := rfl
  rw [hLookup]
  cases content with
  | slots items =>
      simp only [keys, List.mem_cons, List.not_mem_nil, or_false] at hKey
      rcases hKey with hTuple | hSlots
      · rw [hTuple]
        rfl
      · rw [hSlots]
        rfl
  | symbol text hash =>
      rw [List.mem_singleton.mp hKey]
      rfl
  | string text =>
      rw [List.mem_singleton.mp hKey]
      rfl
  | bytes data =>
      rw [List.mem_singleton.mp hKey]
      rfl

end Content

/-- Decoding undoes layout. Whatever else a builder places, and in whatever order, an object with a
payload of variable length is described in the finished image under its type, and its fields are what
was laid out: each slot as it is classified, the hash as far as it fits a word, the text of a symbol up
to its first null character, and the text or the data in full otherwise. -/
theorem build_shows_content {steps : List BuildStep} {addresses : List Nat} {final : ImageBuilder}
    {image : MemoryImage} (hRun : (ImageBuilder.new arch).performAll steps = .ok (addresses, final))
    (hBuild : final.build = .ok image)
    {index typeAddress address : Nat} {content : Content} {name : String}
    (hStep : steps[index]? = some (content.step typeAddress))
    (hAddress : addresses[index]? = some address) (hNonzero : address ≠ 0)
    (hPlace : arch.Accommodates address (content.objectSize arch))
    (hAligned : typeAddress % 4 = 0) (hFits : typeAddress < arch.width.modulus)
    (hName : image.types.nameOf typeAddress = some name)
    (hKey : TypeKey.ofName name ∈ content.keys) (hSize : content.dataSize arch ≤ maxPayloadSize) :
    image.Shows .builtin address (content.fields arch.width) := by
  have hArch : image.arch = arch :=
    (ImageBuilder.build_arch hBuild).trans (ImageBuilder.performAll_arch hRun)
  obtain ⟨before, next, _, hBefore, hPerformed, _, hPlaced⟩ :=
    ImageBuilder.performed_of_getElem? hRun hStep hAddress
  obtain ⟨body, hBody, hPlan⟩ := Content.plan_of_perform hPerformed
  have hBeforeArch : before.arch = arch := hBefore
  rw [hBeforeArch] at hBody
  have hLength : ((ObjectPlan.young typeAddress body).encode arch).length =
      content.objectSize arch := by
    rw [ObjectPlan.encode_length, Content.objectSize, ← Content.body_length hBody]
    rfl
  rw [← hLength] at hPlace
  have hServes : image.host.Serves address ((ObjectPlan.young typeAddress body).encode arch) :=
    ImageBuilder.build_serves hRun hBuild (hPlaced _ hPlan) hPlace.reachable
  subst hArch
  apply MemoryImage.shows_of_serves hServes hNonzero hPlace hAligned hFits
  intro object hObject _ hPayload
  change (Registry.builtin.lookup (image.types.nameOf typeAddress)).Shows _ _ _
  rw [hName, Content.lookup_builtin hKey]
  rw [← hObject] at hBody hSize
  rw [← hObject]
  exact Content.shows hBody hPayload hSize

/-- A tuple behind an object that ends within a word, at the narrow width and in big-endian order. -/
theorem build_shows_content_tuple :
    MemoryImage.Shows ⟨⟨.w32, .big⟩, [⟨0x1000, [0, 0, 48, 0, 0, 0, 0, 0, 0, 0, 0, 9, 0, 0, 0, 1, 7,
        0, 0, 0, 0, 0, 32, 0, 0, 0, 0, 0, 0, 0, 0, 7, 0, 0, 0, 11, 0, 0, 0, 0]⟩],
        ⟨[(0x2000, "builtin/Tuple")]⟩⟩ .builtin 0x1014
      [⟨"[0]", .tagged (.smallInt 5)⟩, ⟨"[1]", .tagged .null⟩] := by
  have hRun : (ImageBuilder.new ⟨.w32, .big⟩).performAll
      [.nameType 0x2000 "builtin/Tuple", .bytes 0x3000 [7], .slots 0x2000 [11, 0]] =
        .ok ([0x2000, 0x1000, 0x1014], ⟨⟨⟨.w32, .big⟩, [], ⟨[(0x2000, "builtin/Tuple")]⟩⟩, 0x1000,
          [0, 0, 48, 0, 0, 0, 0, 0, 0, 0, 0, 9, 0, 0, 0, 1, 7, 0, 0, 0,
            0, 0, 32, 0, 0, 0, 0, 0, 0, 0, 0, 7, 0, 0, 0, 11, 0, 0, 0, 0], none⟩) := by
    decide +kernel
  have hStep : ([.nameType 0x2000 "builtin/Tuple", .bytes 0x3000 [7], .slots 0x2000 [11, 0]] :
      List BuildStep)[2]? = some ((Content.slots [11, 0]).step 0x2000) := rfl
  have hKey : TypeKey.ofName "builtin/Tuple" ∈ (Content.slots [11, 0]).keys := by decide +kernel
  have hFields : (Content.slots [11, 0]).fields .w32 =
      [⟨"[0]", .tagged (.smallInt 5)⟩, ⟨"[1]", .tagged .null⟩] := by decide +kernel
  rw [← hFields]
  exact build_shows_content hRun rfl hStep rfl (by decide)
    (.of_lt (by decide) (by decide)) (by decide) (by decide) rfl hKey (by decide)

end HeapInspector
