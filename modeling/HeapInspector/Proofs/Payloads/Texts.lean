import HeapInspector.Proofs.Payloads.Characters
import HeapInspector.Proofs.Payloads.Reading
import HeapInspector.Proofs.Results.Still
import HeapInspector.Proofs.RoundTrip.BuiltIn

/-! Symbols, strings and byte strings. All of them store the size of their bytes, and what it leaves for
the data is judged before any data is read. A symbol takes what there is and cuts it at the first zero;
a string and a byte string take exactly as much as they say they have, zeros included. -/
namespace HeapInspector

open Inquiry

variable {α β : Type} {object : ObjectRef} {host : Host} {past : List Request} {stored size : Nat}
  {front : List Field} {name : String}

namespace Decoder

/-- What becomes of data behind two fixed words, the first of which is the stored size. The stored size
has to hold the two words, then to hold the data as well, and the data must not be more than a payload.
Data that is taken is read in full. -/
structure TakesData (decoder : Decoder) (object : ObjectRef) (host : Host) (past : List Request)
    (stored size : Nat) (front : List Field) (name : String) (wrap : α → FieldValue)
    (meaning : Bytes → Except Inconsistency α) : Prop where
  small : stored < 2 * object.wordSize →
    decoder.Rejects object host past (.implausibleSize stored)
  overfull : 2 * object.wordSize ≤ stored → stored - 2 * object.wordSize < size →
    decoder.Rejects object host past (.lengthExceedsExtent size (stored - 2 * object.wordSize))
  large : 2 * object.wordSize ≤ stored → size ≤ stored - 2 * object.wordSize →
    maxPayloadSize < size → decoder.Rejects object host past (.implausibleSize size)
  taken : 2 * object.wordSize ≤ stored → size ≤ stored - 2 * object.wordSize →
    size ≤ maxPayloadSize → ∃ fields payload,
      ((decoder.fields object).run host past).outcome = .ok fields ∧
      fields.Announces front name wrap payload ∧
      object.Interprets (object.bodyOffset + 2 * object.wordSize) size meaning payload ∧
      decoder.Retraces object host past ((object.readWords object.bodyOffset 2).run host past) wrap
        payload

section Layout

variable {decoder : Decoder} {layout : Inquiry β} {next : List Nat → Inquiry β} {words : List Nat}
  {locate : β → Fields} {wrap : α → FieldValue} {meaning : Bytes → Except Inconsistency α}
  {first : Fields}

/-- A decoder that checks its two words, and then locates its fields or makes its value of the layout
that it has found. -/
theorem takesData_of_layout (found : Nat → β) (payload : β → Inquiry α)
    (hWords : ((object.readWords object.bodyOffset 2).run host past).outcome = .ok words)
    (hLayout : layout = object.readWords object.bodyOffset 2 >>= next)
    (hNext : next words = do return found (← object.checkDataSize stored 2 size))
    (hFields : decoder.fields object = do return locate (← layout))
    (hValue : decoder.value object = do return some (wrap (← payload (← layout))).display)
    (hLocate : locate (found size) = first ++ .one name (do return wrap (← payload (found size))))
    (hFirst : first.Known front)
    (hPayload : object.Interprets (object.bodyOffset + 2 * object.wordSize) size meaning
      (payload (found size))) :
    decoder.TakesData object host past stored size front name wrap meaning := by
  -- Fields and value stand behind the same check, so it is followed once for both.
  have hRejects {kind : Inconsistency}
      (h : object.checkDataSize stored 2 size = object.inconsistent kind) :
      decoder.Rejects object host past kind := by
    have hRefused : next words = .fail (.error (.decode object.address kind)) := by
      rw [hNext, h]
      rfl
    have hOutcome := outcome_of_rejected hWords hRefused
    rw [← hLayout] at hOutcome
    constructor
    · rw [hFields]
      exact outcome_bind_of_error _ hOutcome
    · rw [hValue]
      exact outcome_bind_of_error _ hOutcome
  constructor
  · exact fun hSmall => hRejects (ObjectRef.checkDataSize_eq_of_small hSmall)
  · exact fun hStored hOver => hRejects (ObjectRef.checkDataSize_eq_of_over hStored hOver)
  · intro hStored hFits hLarge
    apply hRejects
    rw [ObjectRef.checkDataSize_eq hStored hFits, ObjectRef.checkPayloadSize_eq_of_lt hLarge]
  · intro hStored hFits hSize
    have hFound : next words = .done (found size) := by
      rw [hNext, ObjectRef.checkDataSize_eq hStored hFits, ObjectRef.checkPayloadSize_eq hSize]
      rfl
    refine ⟨locate (found size), payload (found size), ?_, ?_, hPayload, ?_⟩
    · rw [hFields, hLayout, LawfulMonad.bind_assoc, run_bind_of_ok _ hWords, hFound]
      rfl
    · rw [hLocate]
      exact hFirst.announces hPayload.neverStops
    · have hBehind : decoder.value object = object.readWords object.bodyOffset 2 >>= fun words =>
          next words >>= fun found => do return some (wrap (← payload found)).display := by
        rw [hValue, hLayout, LawfulMonad.bind_assoc]
      apply retraces_of_value hBehind hWords
      rw [hFound]
      rfl

end Layout

theorem decodeUtf8_eq_judge (data : Bytes) : decodeUtf8 object data = object.judge (Utf8.textOf data) := by
  unfold decodeUtf8 Utf8.textOf
  cases Utf8.decode data <;> rfl

theorem interprets_readData :
    object.Interprets (object.bodyOffset + 2 * object.wordSize) size .ok (readData object size) := by
  apply ObjectRef.interprets_of_eq
  rw [readData, bytesFixedWords, ObjectRef.fixedWordOffset_eq (by decide)]
  exact (bind_done _).symm

/-- The elements are decoded one after another, up to the first that is no character. -/
theorem forEach_decodeCodePoint {list : List Bytes} (hSize : ∀ element ∈ list, element.length ≤ 8) :
    forEach (fun element => do decodeCodePoint object (← object.arch.decodeUnsigned element)) list =
      object.judge (CodePoint.charactersOf (list.map object.arch.order.decode)) := by
  induction list with
  | nil => rfl
  | cons element rest ih =>
      have hElement : object.arch.decodeUnsigned element = .done (object.arch.order.decode element) :=
        if_pos (hSize element List.mem_cons_self)
      rw [forEach, hElement, ih fun other hMem => hSize other (List.mem_cons_of_mem _ hMem),
        List.map_cons]
      -- The failure of one element is that of the whole row, whatever stands behind it.
      change (decodeCodePoint object (object.arch.order.decode element) >>= _) = _
      by_cases hForeign : CodePoint.IsForeign (object.arch.order.decode element)
      · rw [decodeCodePoint, if_neg (CodePoint.isForeign_iff.mp hForeign),
          CodePoint.charactersOf_cons_of_foreign hForeign]
        rfl
      · rw [decodeCodePoint, if_pos (not_not.mp (mt CodePoint.isForeign_iff.mpr hForeign)),
          CodePoint.charactersOf_cons hForeign]
        cases CodePoint.charactersOf (rest.map object.arch.order.decode) <;> rfl

theorem interprets_readText {packed : PackedLength} (hElement : packed.elementSize ≤ 4) :
    object.Interprets (object.bodyOffset + 2 * object.wordSize) size
      (object.arch.order.textOf packed.elementSize) (readText object packed size) := by
  apply ObjectRef.interprets_of_eq
  rw [readText, textFixedWords, ObjectRef.fixedWordOffset_eq (by decide)]
  change (object.readBytes _ size >>= _) = _
  congr 1
  funext data
  rw [ByteOrder.textOf]
  split
  · exact decodeUtf8_eq_judge data
  · have hPieces : ∀ element ∈ pieces packed.elementSize data, element.length ≤ 8 := by
      intro element hMem
      rw [length_of_mem_pieces hMem]
      omega
    rw [forEach_decodeCodePoint hPieces, CodePoint.textOf, ByteOrder.elements]
    cases CodePoint.charactersOf _ <;> rfl

theorem bytes_takesData
    (hWords : ((object.readWords object.bodyOffset 2).run host past).outcome = .ok [stored, size]) :
    bytes.TakesData object host past stored size [⟨"size", .unsigned size⟩] "data" .bytes .ok :=
  takesData_of_layout id (readData object) hWords rfl (bind_done _).symm rfl rfl rfl
    Fields.known_known interprets_readData

theorem string_takesData {packed : Nat}
    (hWords : ((object.readWords object.bodyOffset 2).run host past).outcome = .ok [stored, packed])
    (hBound : packed / 4 * (packed % 4 + 1) < machineBound) :
    string.TakesData object host past stored (packed / 4 * (packed % 4 + 1))
      [⟨"length", .unsigned (packed / 4)⟩, ⟨"element_size", .unsigned (packed % 4 + 1)⟩] "text" .text
      (object.arch.order.textOf (packed % 4 + 1)) := by
  have hSize : (PackedLength.unpack packed).dataSize = .done (packed / 4 * (packed % 4 + 1)) :=
    if_pos hBound
  have hElement : (PackedLength.unpack packed).elementSize ≤ 4 := Nat.mod_lt packed (by decide)
  refine takesData_of_layout (fun size => (PackedLength.unpack packed, size))
    (fun layout => readText object layout.1 layout.2) hWords rfl ?_ rfl rfl rfl
    (Fields.known_known.append Fields.known_known) (interprets_readText hElement)
  dsimp only
  rw [hSize]
  rfl

theorem readSymbolText_eq_of_small (h : stored < 3 * object.wordSize) :
    readSymbolText object stored = object.inconsistent (.implausibleSize stored) := by
  rw [readSymbolText, symbolFixedWords, ObjectRef.dataExtent_eq_of_lt h]
  rfl

section Extent

variable (hStored : 3 * object.wordSize ≤ stored)

include hStored

theorem readSymbolText_eq_of_large (h : maxPayloadSize < stored - 3 * object.wordSize) :
    readSymbolText object stored =
      object.inconsistent (.implausibleSize (stored - 3 * object.wordSize)) := by
  rw [readSymbolText, symbolFixedWords, ObjectRef.dataExtent_eq hStored, bind_eq, Inquiry.bind,
    ObjectRef.checkPayloadSize_eq_of_lt h]
  rfl

/-- All of the extent is read, and the text is cut afterwards. -/
theorem interprets_readSymbolText (h : stored - 3 * object.wordSize ≤ maxPayloadSize) :
    object.Interprets (object.bodyOffset + 3 * object.wordSize) (stored - 3 * object.wordSize)
      Utf8.textBeforeZero (readSymbolText object stored) := by
  apply ObjectRef.interprets_of_eq
  rw [readSymbolText, symbolFixedWords, ObjectRef.dataExtent_eq hStored, bind_eq, Inquiry.bind,
    ObjectRef.checkPayloadSize_eq h, bind_eq, Inquiry.bind, ObjectRef.fixedWordOffset_eq (by decide)]
  change (object.readBytes _ _ >>= _) = _
  congr 1
  funext data
  exact decodeUtf8_eq_judge _

end Extent

/-- The hash and the link are there whatever becomes of the text. -/
theorem symbol_announces {next hash : Nat}
    (hWords : ((object.readWords object.bodyOffset 3).run host past).outcome =
      .ok [stored, next, hash]) :
    ∃ fields, ((symbol.fields object).run host past).outcome = .ok fields ∧
      fields.Announces [⟨"hash", .unsigned hash⟩, ⟨"registry_next", .tagged (object.classify next)⟩]
        "text" .text (readSymbolText object stored) := by
  have hNever : (readSymbolText object stored).NeverStops :=
    (meets_readSymbolText (Conduct.payloads_allows object)).neverStops
  refine ⟨_, ?_, (Fields.known_known.append Fields.known_known).announces hNever⟩
  change ((object.readWords object.bodyOffset 3 >>= _).run host past).outcome = _
  rw [run_bind_of_ok _ hWords]
  rfl

theorem symbol_retraces
    (hStored : ((object.readWord object.bodyOffset).run host past).outcome = .ok stored) :
    symbol.Retraces object host past ((object.readWord object.bodyOffset).run host past) .text
      (readSymbolText object stored) := retraces_of_value rfl hStored rfl

end Decoder

/-- A string is read in full, as much as its length says and no matter where there are zeros. The size of
its elements always fits into a word of the host. The stored size is judged first, then the size of
the elements against it, then that size alone; whatever passes is read at once and becomes the text.
Elements of one byte are the text that they encode, if there is one. Wider elements are the code points
of the text, one for each character, or else the first that belongs to no character is reported. So
every text whose characters fit into the elements is read back as it was written. -/
theorem strings_are_read_in_full {typeName : String} {packed : Nat}
    (hType : TypeKey.ofName typeName = ⟨"string"⟩)
    (hWords : ((object.readWords object.bodyOffset 2).run host past).outcome =
      .ok [stored, packed]) :
    let length := packed / 4
    let elementSize := packed % 4 + 1
    let order := object.arch.order
    let textOf := order.textOf elementSize
    length * elementSize < machineBound ∧
    (Registry.builtin.lookup (some typeName)).TakesData object host past stored (length * elementSize)
      [⟨"length", .unsigned length⟩, ⟨"element_size", .unsigned elementSize⟩] "text" .text textOf ∧
    (elementSize = 1 → ∀ data,
      (∀ text, textOf data = .ok text ↔ Utf8.encode text = data) ∧
      ∀ kind, textOf data = .error kind ↔ kind = .invalidUtf8 ∧ ∀ text, Utf8.encode text ≠ data) ∧
    (elementSize ≠ 1 → ∀ data, data.length = length * elementSize →
      (order.elements elementSize data).length = length ∧
      (∀ text, textOf data = .ok text ↔
        text.toList.map Char.toNat = order.elements elementSize data) ∧
      ∀ kind, textOf data = .error kind ↔ ∃ front code behind,
        order.elements elementSize data = front ++ code :: behind ∧
        (∀ before ∈ front, ¬ CodePoint.IsForeign before) ∧ CodePoint.IsForeign code ∧
        kind = .invalidCodePoint code) ∧
    (elementSize ≠ 1 → ∀ characters : List Char, (∀ c ∈ characters, c.toNat < 256 ^ elementSize) →
      textOf (order.encodeCharacters elementSize characters) = .ok (String.ofList characters)) := by
  intro length elementSize order textOf
  have hPacked : packed < object.arch.width.modulus :=
    (ObjectRef.meets_fixedWords (Conduct.payloads_allows object) (by decide)).post_of_mayReturn
      ⟨host, past, hWords⟩ |>.2 packed (by simp)
  have hBound : length * elementSize < machineBound := Decoder.packedLength_dataSize_lt hPacked
  have hKey : TypeKey.ofName typeName ∈ (Content.string "").keys := List.mem_singleton.mpr hType
  refine ⟨hBound, ?_, ?_, ?_, ?_⟩
  · rw [Content.lookup_builtin hKey]
    exact Decoder.string_takesData hWords hBound
  · intro hByte data
    have hText : textOf data = Utf8.textOf data := if_pos hByte
    rw [hText]
    exact ⟨fun text => Utf8.textOf_eq_ok_iff, fun kind => Utf8.textOf_eq_error_iff⟩
  · intro hWide data hLength
    have hText : textOf data = CodePoint.textOf (order.elements elementSize data) := if_neg hWide
    rw [hText]
    refine ⟨?_, fun text => CodePoint.textOf_eq_ok_iff, fun kind => CodePoint.textOf_eq_error_iff⟩
    rw [order.elements_length, hLength, Nat.mul_div_cancel length (Nat.succ_pos _)]
  · intro hWide characters hFits
    exact ByteOrder.textOf_encodeCharacters (by omega) hFits

/-- A string of three characters in elements of three bytes. One is the null character, and one lies
beyond the first plane. -/
def MemoryImage.wideString : MemoryImage :=
  ⟨⟨.w32, .big⟩,
    [⟨0x1000, [0x2000, 0, 17, 14].flatMap (Architecture.encodeWord ⟨.w32, .big⟩) ++
      [0, 0, 0x41, 0, 0, 0, 1, 0xf6, 0]⟩], .empty⟩

/-- All three characters are in the text. -/
theorem strings_are_read_in_full_wide :
    let object : ObjectRef := ⟨⟨.w32, .big⟩, 0x1000, .ofWords 0x2000 0⟩
    let host := MemoryImage.wideString.host
    TypeKey.ofName "type_String" = ⟨"string"⟩ ∧
    ((object.readWords object.bodyOffset 2).run host []).outcome = .ok [17, 14] ∧
    ∃ fields, (((Registry.builtin.lookup (some "type_String")).fields object).run host []).outcome =
        .ok fields ∧ fields.count = 3 ∧
      ((fields.field 2).run host []).outcome =
        .ok ⟨"text", .text (String.ofList ['A', '\x00', Char.ofNat 0x1f600])⟩ := by
  intro object host
  have hType : TypeKey.ofName "type_String" = ⟨"string"⟩ := by decide +kernel
  have hWords : ((object.readWords object.bodyOffset 2).run host []).outcome = .ok [17, 14] := by
    decide +kernel
  obtain ⟨_, hTakes, _, _, hWritten⟩ := strings_are_read_in_full hType hWords
  obtain ⟨fields, payload, hFields, hAnnounces, hPayload, _⟩ :=
    hTakes.taken (by decide) (by decide) (by decide)
  have hData : ((object.readBytes 16 9).run host []).outcome =
      .ok (ByteOrder.big.encodeCharacters 3 ['A', '\x00', Char.ofNat 0x1f600]) := by decide +kernel
  have hFits : ∀ c ∈ ['A', '\x00', Char.ofNat 0x1f600], c.toNat < 256 ^ 3 := by
    simp only [List.forall_mem_cons, List.not_mem_nil, false_imp_iff, implies_true, and_true]
    decide
  have hText := hPayload.outcome_of_data hData (hWritten (by decide) _ hFits)
  have hField := hAnnounces.last.run host [] (.ok _) hText
  exact ⟨hType, hWords, fields, hFields, hAnnounces.count, congrArg Run.outcome hField⟩

/-- The text of a symbol ends at its first zero, and nothing behind it matters. The stored size is judged
first, and the size that it leaves for the text next; whatever passes is read at once, and the bytes in
front of the first zero, or all of them, become the text if they are valid. The text is the same as a
field and as the value of the symbol. A byte string, by contrast, is as long as it says: it shows all
of its bytes, zeros included, once its sizes have passed. -/
theorem symbol_text_ends_at_zero {typeName : String} {next hash : Nat}
    (hType : TypeKey.ofName typeName = ⟨"symbol"⟩)
    (hWords : ((object.readWords object.bodyOffset 3).run host past).outcome =
      .ok [stored, next, hash]) :
    let decoder := Registry.builtin.lookup (some typeName)
    let extent := stored - 3 * object.wordSize
    (∃ fields text, ((decoder.fields object).run host past).outcome = .ok fields ∧
      fields.Announces [⟨"hash", .unsigned hash⟩, ⟨"registry_next", .tagged (object.classify next)⟩]
        "text" .text text ∧
      (∀ later laterPast,
        ((object.readWord object.bodyOffset).run later laterPast).outcome = .ok stored →
        decoder.Retraces object later laterPast
          ((object.readWord object.bodyOffset).run later laterPast) .text text) ∧
      (stored < 3 * object.wordSize → text = object.inconsistent (.implausibleSize stored)) ∧
      (3 * object.wordSize ≤ stored → maxPayloadSize < extent →
        text = object.inconsistent (.implausibleSize extent)) ∧
      (3 * object.wordSize ≤ stored → extent ≤ maxPayloadSize →
        object.Interprets (object.bodyOffset + 3 * object.wordSize) extent Utf8.textBeforeZero text)) ∧
    (∀ front, 0 ∉ front → Utf8.textBeforeZero front = Utf8.textOf front ∧
      ∀ rest, Utf8.textBeforeZero (front ++ 0 :: rest) = Utf8.textOf front) ∧
    (∀ front, (∀ text, Utf8.textOf front = .ok text ↔ Utf8.encode text = front) ∧
      ∀ kind, Utf8.textOf front = .error kind ↔
        kind = .invalidUtf8 ∧ ∀ text, Utf8.encode text ≠ front) ∧
    ∀ (bytesName : String) (other : ObjectRef) (otherHost : Host) (otherPast : List Request)
      (otherStored size : Nat), TypeKey.ofName bytesName = ⟨"bytes"⟩ →
      ((other.readWords other.bodyOffset 2).run otherHost otherPast).outcome =
        .ok [otherStored, size] →
      (Registry.builtin.lookup (some bytesName)).TakesData other otherHost otherPast otherStored size
        [⟨"size", .unsigned size⟩] "data" .bytes .ok := by
  have hKey : TypeKey.ofName typeName ∈ (Content.symbol "" 0).keys := List.mem_singleton.mpr hType
  rw [Content.lookup_builtin hKey]
  refine ⟨?_, ?_, ?_, ?_⟩
  · obtain ⟨fields, hFields, hAnnounces⟩ := Decoder.symbol_announces hWords
    exact ⟨fields, Decoder.readSymbolText object stored, hFields, hAnnounces,
      fun _ _ hStored => Decoder.symbol_retraces hStored, Decoder.readSymbolText_eq_of_small,
      Decoder.readSymbolText_eq_of_large, Decoder.interprets_readSymbolText⟩
  · exact fun front hZero => ⟨Utf8.textBeforeZero_eq hZero, Utf8.textBeforeZero_append hZero⟩
  · exact fun front => ⟨fun text => Utf8.textOf_eq_ok_iff, fun kind => Utf8.textOf_eq_error_iff⟩
  · intro bytesName other otherHost otherPast otherStored size hBytes hOther
    have hBytesKey : TypeKey.ofName bytesName ∈ (Content.bytes []).keys := List.mem_singleton.mpr hBytes
    rw [Content.lookup_builtin hBytesKey]
    exact Decoder.bytes_takesData hOther

/-- A symbol and a byte string with the same data. It has a zero in the middle and cannot be decoded
behind it. -/
def MemoryImage.zeroInside : MemoryImage :=
  ⟨⟨.w32, .little⟩,
    [⟨0x1000, [0x2000, 0, 16, 0, 99].flatMap (Architecture.encodeWord ⟨.w32, .little⟩) ++
        [0x6f, 0x6b, 0, 0xff]⟩,
      ⟨0x3000, [0x2100, 0, 12, 4].flatMap (Architecture.encodeWord ⟨.w32, .little⟩) ++
        [0x6f, 0x6b, 0, 0xff]⟩], .empty⟩

/-- The symbol ends at the zero, and the byte string does not. -/
theorem symbol_text_ends_at_zero_inside :
    let symbol : ObjectRef := ⟨⟨.w32, .little⟩, 0x1000, .ofWords 0x2000 0⟩
    let bytes : ObjectRef := ⟨⟨.w32, .little⟩, 0x3000, .ofWords 0x2100 0⟩
    let host := MemoryImage.zeroInside.host
    TypeKey.ofName "type_Symbol" = ⟨"symbol"⟩ ∧ TypeKey.ofName "Bytes" = ⟨"bytes"⟩ ∧
    ((symbol.readWords symbol.bodyOffset 3).run host []).outcome = .ok [16, 0, 99] ∧
    ((bytes.readWords bytes.bodyOffset 2).run host []).outcome = .ok [12, 4] ∧
    (∃ fields, (((Registry.builtin.lookup (some "type_Symbol")).fields symbol).run host []).outcome =
        .ok fields ∧
      ((fields.field 2).run host []).outcome = .ok ⟨"text", .text "ok"⟩) ∧
    ∃ fields, (((Registry.builtin.lookup (some "Bytes")).fields bytes).run host []).outcome =
        .ok fields ∧
      ((fields.field 1).run host []).outcome = .ok ⟨"data", .bytes [0x6f, 0x6b, 0, 0xff]⟩ := by
  intro symbol bytes host
  have hType : TypeKey.ofName "type_Symbol" = ⟨"symbol"⟩ := by decide +kernel
  have hBytes : TypeKey.ofName "Bytes" = ⟨"bytes"⟩ := by decide +kernel
  have hWords : ((symbol.readWords symbol.bodyOffset 3).run host []).outcome = .ok [16, 0, 99] := by
    decide +kernel
  have hSizes : ((bytes.readWords bytes.bodyOffset 2).run host []).outcome = .ok [12, 4] := by
    decide +kernel
  obtain ⟨⟨fields, text, hFields, hAnnounces, _, _, _, hTaken⟩, hCut, hDecode, hTakes⟩ :=
    symbol_text_ends_at_zero hType hWords
  refine ⟨hType, hBytes, hWords, hSizes, ⟨fields, hFields, ?_⟩, ?_⟩
  · have hText : Utf8.textBeforeZero [0x6f, 0x6b, 0, 0xff] = .ok "ok" :=
      ((hCut [0x6f, 0x6b] (by decide)).2 [0xff]).trans (((hDecode _).1 "ok").mpr (by decide +kernel))
    have hData : ((symbol.readBytes 20 4).run host []).outcome = .ok [0x6f, 0x6b, 0, 0xff] := by
      decide +kernel
    have hRead := (hTaken (by decide) (by decide)).outcome_of_data hData hText
    exact congrArg Run.outcome (hAnnounces.last.run host [] (.ok _) hRead)
  · obtain ⟨shown, payload, hShown, hLast, hPayload, _⟩ :=
      (hTakes _ _ _ _ _ _ hBytes hSizes).taken (by decide) (by decide) (by decide)
    have hData : ((bytes.readBytes 16 4).run host []).outcome = .ok [0x6f, 0x6b, 0, 0xff] := by
      decide +kernel
    have hRead := hPayload.outcome_of_data hData rfl
    exact ⟨shown, hShown, congrArg Run.outcome (hLast.last.run host [] (.ok _) hRead)⟩

end HeapInspector
