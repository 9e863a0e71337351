import HeapInspector.Proofs.Text.Flat

/-! Quoted texts and bytes. Nothing that stands between the quotation marks can end them, nothing runs into
what follows it, and so a reader gets back what was quoted. -/
namespace HeapInspector

/-- A row of characters in which the mark stands only behind a backslash, and in which every backslash has
a character behind it. -/
inductive Guarded (mark : Char) : List Char → Prop where
  | nil : Guarded mark []
  | escaped (c : Char) {rest : List Char} (hRest : Guarded mark rest) :
      Guarded mark ('\\' :: c :: rest)
  | plain {c : Char} {rest : List Char} (hMark : c ≠ mark) (hBackslash : c ≠ '\\')
      (hRest : Guarded mark rest) : Guarded mark (c :: rest)

namespace Guarded

variable {mark : Char} {first second : List Char}

/-- A character that is neither the backslash nor one of the marks guards itself. -/
theorem of_not_mem {c : Char} {marks rest : List Char} (hMark : mark ∈ marks)
    (hNot : c ∉ '\\' :: marks) (hRest : Guarded mark rest) : Guarded mark (c :: rest) := by
  rw [List.mem_cons, not_or] at hNot
  obtain ⟨hBackslash, hOther⟩ := hNot
  exact .plain (fun hSame => hOther (hSame ▸ hMark)) hBackslash hRest

theorem append (h : Guarded mark first) (hSecond : Guarded mark second) :
    Guarded mark (first ++ second) := by
  induction h with
  | nil => exact hSecond
  | escaped c _ ih => exact ih.escaped c
  | plain hMark hBackslash _ ih => exact ih.plain hMark hBackslash

theorem flatMap {α : Type} {f : α → List Char} (h : ∀ a, Guarded mark (f a)) (list : List α) :
    Guarded mark (list.flatMap f) := by
  induction list with
  | nil => exact .nil
  | cons a rest ih => exact (h a).append ih

end Guarded

/-- The digits of a byte are read back, and none of them is a mark or ends a range. -/
theorem Numeral.digit?_digitChar {digit : Nat} (h : digit < 16) :
    digit? 16 (Nat.digitChar digit) = some digit ∧ (Nat.digitChar digit).toNat ≤ 0x7E ∧
      Nat.digitChar digit ∉ ['\\', '"', '\''] := by
  revert h
  revert digit
  decide

theorem Numeral.halves_lt (byte : UInt8) : byte.toNat / 16 < 16 ∧ byte.toNat % 16 < 16 := by
  have hByte := byte.toNat_lt
  omega

theorem Numeral.guarded_byteDigits {mark : Char} (hMark : mark ∈ ['"', '\'']) (byte : UInt8) :
    Guarded mark (byteDigits byte) := by
  obtain ⟨hUpper, hLower⟩ := halves_lt byte
  obtain ⟨_, _, hHigh⟩ := digit?_digitChar hUpper
  obtain ⟨_, _, hLow⟩ := digit?_digitChar hLower
  exact .of_not_mem hMark hHigh (.of_not_mem hMark hLow .nil)

namespace Quoted

variable {c letter : Char}

theorem ofShortEscape?_of_shortEscape? (h : shortEscape? c = some letter) :
    ofShortEscape? letter = some c ∧ letter ≠ 'u' := by
  unfold shortEscape? at h
  split_ifs at h <;> cases h <;> subst_vars <;> decide

theorem not_mark_of_shortEscape?_eq_none (h : shortEscape? c = none) : c ≠ '"' ∧ c ≠ '\\' := by
  unfold shortEscape? at h
  split_ifs at h
  exact ⟨‹_›, ‹_›⟩

theorem guarded_encodeChar (c : Char) : Guarded '"' (encodeChar c) := by
  unfold encodeChar
  split
  · rename_i letter _
    exact .escaped letter .nil
  · rename_i hNone
    obtain ⟨hQuote, hBackslash⟩ := not_mark_of_shortEscape?_eq_none hNone
    split
    · have hZero : Guarded '"' ['\\', 'u', '0', '0'] :=
        .escaped 'u' (.plain (by decide) (by decide) (.plain (by decide) (by decide) .nil))
      exact hZero.append (Numeral.guarded_byteDigits (by decide) _)
    · exact .plain hQuote hBackslash .nil

theorem readTail_letter (hEscape : ofShortEscape? letter = some c) (hLetter : letter ≠ 'u')
    (rest : List Char) :
    readTail ('\\' :: letter :: rest) =
      (readTail rest).map fun (text, after) => (c :: text, after) := by
  rw [readTail, hEscape]
  exact fun _ _ _ _ _ hSame _ => hLetter hSame

theorem readTail_plain (hQuote : c ≠ '"') (hBackslash : c ≠ '\\') (hControl : ¬ c.toNat < 0x20)
    (rest : List Char) :
    readTail (c :: rest) = (readTail rest).map fun (text, after) => (c :: text, after) := by
  rw [readTail, if_neg (not_or.mpr ⟨hBackslash, hControl⟩)]
  · exact hQuote
  · exact fun _ _ _ _ _ h _ => hBackslash h
  · exact fun _ _ h _ => hBackslash h

theorem unit?_byteDigits {n : Nat} (h : n < 0x20) :
    unit? '0' '0' (Nat.digitChar (n / 16)) (Nat.digitChar (n % 16)) = some n := by
  revert h n
  decide

theorem readTail_control (hControl : c.toNat < 0x20) (rest : List Char) :
    readTail (['\\', 'u', '0', '0'] ++ Numeral.byteDigits (UInt8.ofNat c.toNat) ++ rest) =
      (readTail rest).map fun (text, after) => (c :: text, after) := by
  have hByte : (UInt8.ofNat c.toNat).toNat = c.toNat := by
    rw [UInt8.toNat_ofNat']
    omega
  have hUnit := unit?_byteDigits hControl
  -- The unit is below the surrogates, so it is a character by itself and the reader looks no further.
  have hHigh : isHighSurrogate c.toNat = false := by simp [isHighSurrogate]; omega
  have hLow : isLowSurrogate c.toNat = false := by simp [isLowSurrogate]; omega
  simp only [Numeral.byteDigits, hByte, List.cons_append, List.nil_append]
  rw [readTail, hUnit]
  simp [hHigh, hLow]

/-- Whatever follows, one character is read back and the rest is left. -/
theorem readTail_encodeChar (c : Char) (rest : List Char) :
    readTail (encodeChar c ++ rest) =
      (readTail rest).map fun (text, after) => (c :: text, after) := by
  unfold encodeChar
  split
  · rename_i letter hEscape
    obtain ⟨hBack, hLetter⟩ := ofShortEscape?_of_shortEscape? hEscape
    rw [List.cons_append, List.singleton_append, readTail_letter hBack hLetter]
  · rename_i hNone
    obtain ⟨hQuote, hBackslash⟩ := not_mark_of_shortEscape?_eq_none hNone
    split
    · rename_i hControl
      exact readTail_control hControl rest
    · rename_i hControl
      exact readTail_plain hQuote hBackslash hControl rest

theorem readTail_flatMap (text rest : List Char) :
    readTail (text.flatMap encodeChar ++ '"' :: rest) = some (text, rest) := by
  induction text with
  | nil => rfl
  | cons c text ih =>
      rw [List.flatMap_cons, List.append_assoc, readTail_encodeChar, ih]
      rfl

/-- The text that a whole quoted text stands for. -/
def decode : List Char → Option (List Char)
  | '"' :: rest =>
      match readTail rest with
      | some (text, []) => some text
      | _ => none
  | _ => none

theorem decode_encode (text : List Char) : decode (encode text) = some text := by
  rw [encode, List.cons_append, decode, readTail_flatMap]

theorem decode_quote (text : String) : decode (quote text).toList = some text.toList := by
  rw [quote, String.toList_ofList, decode_encode]

theorem quote_inj {text other : String} (h : quote text = quote other) : text = other := by
  rw [← String.toList_inj, ← Option.some_inj, ← decode_quote text, h, decode_quote]

end Quoted

namespace Escaped

variable {byte : UInt8} {bytes : Bytes} {letter : Char}

/-- Every escape of one letter stands for one byte, and none has the letter of the long escape. -/
theorem shortEscape_of_lookup (h : shortEscapes.lookup byte = some letter) :
    shortEscapes.find? (·.2 = letter) = some (byte, letter) ∧ letter ≠ 'x' ∧ letter.toNat ≤ 0x7E := by
  have hEach : ∀ entry ∈ shortEscapes,
      shortEscapes.find? (·.2 = entry.2) = some entry ∧ entry.2 ≠ 'x' ∧ entry.2.toNat ≤ 0x7E := by
    decide
  obtain ⟨before, after, hEntries, _⟩ := List.lookup_eq_some_iff.mp h
  exact hEach (byte, letter) (by simp [hEntries])

/-- A byte that stands for itself is a character, but none that is escaped. -/
theorem printable_of_lookup_eq_none (h : shortEscapes.lookup byte = none)
    (hRange : 0x20 ≤ byte ∧ byte < 0x7F) :
    (Char.ofNat byte.toNat).toNat = byte.toNat ∧ Char.ofNat byte.toNat ∉ ['\\', '"', '\''] := by
  have hEach : ∀ n < 0x7F, 0x20 ≤ n → shortEscapes.lookup (UInt8.ofNat n) = none →
      (Char.ofNat n).toNat = n ∧ Char.ofNat n ∉ ['\\', '"', '\''] := by
    decide
  obtain ⟨hLow, hHigh⟩ := hRange
  exact hEach byte.toNat hHigh hLow (by rw [UInt8.ofNat_toNat]; exact h)

theorem guarded_encodeByte {mark : Char} (hMark : mark ∈ ['"', '\'']) (byte : UInt8) :
    Guarded mark (encodeByte byte) := by
  unfold encodeByte
  split
  · rename_i letter _
    exact .escaped letter .nil
  · rename_i hNone
    split
    · rename_i hRange
      obtain ⟨_, hNot⟩ := printable_of_lookup_eq_none hNone hRange
      exact .of_not_mem hMark hNot .nil
    · exact .escaped 'x' (Numeral.guarded_byteDigits hMark byte)

theorem toNat_le_of_mem_encodeByte {c : Char} (h : c ∈ encodeByte byte) : c.toNat ≤ 0x7E := by
  have hBackslash : '\\'.toNat ≤ 0x7E := by decide
  unfold encodeByte at h
  split at h
  · rename_i letter hEscape
    obtain ⟨_, _, hLetter⟩ := shortEscape_of_lookup hEscape
    simp only [List.mem_cons, List.not_mem_nil, or_false] at h
    obtain rfl | rfl := h
    · exact hBackslash
    · exact hLetter
  · rename_i hNone
    split at h
    · rename_i hRange
      obtain ⟨hSame, _⟩ := printable_of_lookup_eq_none hNone hRange
      have hHigh : byte.toNat < 0x7F := hRange.2
      rw [List.mem_singleton.mp h, hSame]
      omega
    · obtain ⟨hUpper, hLower⟩ := Numeral.halves_lt byte
      obtain ⟨_, hHigh, _⟩ := Numeral.digit?_digitChar hUpper
      obtain ⟨_, hLow, _⟩ := Numeral.digit?_digitChar hLower
      simp only [Numeral.byteDigits, List.mem_cons, List.not_mem_nil, or_false] at h
      obtain rfl | rfl | rfl | rfl := h
      · exact hBackslash
      · decide
      · exact hHigh
      · exact hLow

/-- Reads bytes back. Only the escapes that `encode` knows are accepted, and outside of them only
printable ASCII characters. -/
def decode : List Char → Option (List UInt8)
  | [] => some []
  | '\\' :: 'x' :: high :: low :: rest =>
      match Numeral.digit? 16 high, Numeral.digit? 16 low with
      | some high, some low => (decode rest).map (UInt8.ofNat (high * 16 + low) :: ·)
      | _, _ => none
  | '\\' :: letter :: rest =>
      match shortEscapes.find? (·.2 = letter) with
      | some (byte, _) => (decode rest).map (byte :: ·)
      | none => none
  | c :: rest =>
      if c ≠ '\\' ∧ 0x20 ≤ c.toNat ∧ c.toNat < 0x7F then
        (decode rest).map (UInt8.ofNat c.toNat :: ·)
      else none

theorem decode_letter {other : Char}
    (hEscape : shortEscapes.find? (·.2 = letter) = some (byte, other)) (hLetter : letter ≠ 'x')
    (rest : List Char) : decode ('\\' :: letter :: rest) = (decode rest).map (byte :: ·) := by
  rw [decode, hEscape]
  -- Only behind the letter of the long escape does the reader take digits.
  exact fun _ _ _ hSame _ => hLetter hSame

theorem decode_byteDigits (byte : UInt8) (rest : List Char) :
    decode ('\\' :: 'x' :: Numeral.byteDigits byte ++ rest) = (decode rest).map (byte :: ·) := by
  obtain ⟨hUpper, hLower⟩ := Numeral.halves_lt byte
  obtain ⟨hHigh, _⟩ := Numeral.digit?_digitChar hUpper
  obtain ⟨hLow, _⟩ := Numeral.digit?_digitChar hLower
  have hValue : byte.toNat / 16 * 16 + byte.toNat % 16 = byte.toNat := Nat.div_add_mod' _ _
  simp only [Numeral.byteDigits, List.cons_append, List.nil_append]
  rw [decode, hHigh, hLow]
  simp only [hValue, UInt8.ofNat_toNat]

/-- Whatever follows, one byte is read back and the rest is left. -/
theorem decode_encodeByte (byte : UInt8) (rest : List Char) :
    decode (encodeByte byte ++ rest) = (decode rest).map (byte :: ·) := by
  unfold encodeByte
  split
  · rename_i letter hEscape
    obtain ⟨hBack, hLetter, _⟩ := shortEscape_of_lookup hEscape
    rw [List.cons_append, List.singleton_append, decode_letter hBack hLetter]
  · rename_i hNone
    split
    · rename_i hRange
      obtain ⟨hSame, hNot⟩ := printable_of_lookup_eq_none hNone hRange
      have hBackslash : Char.ofNat byte.toNat ≠ '\\' := fun hEq => hNot (hEq ▸ List.mem_cons_self)
      have hPlain : Char.ofNat byte.toNat ≠ '\\' ∧ 0x20 ≤ (Char.ofNat byte.toNat).toNat ∧
          (Char.ofNat byte.toNat).toNat < 0x7F :=
        ⟨hBackslash, hSame.symm ▸ hRange.1, hSame.symm ▸ hRange.2⟩
      rw [List.singleton_append, decode, if_pos hPlain, hSame, UInt8.ofNat_toNat]
      · exact fun _ _ _ hEq _ => hBackslash hEq
      · exact fun _ _ hEq _ => hBackslash hEq
    · exact decode_byteDigits byte rest

theorem decode_encode (bytes : Bytes) : decode (encode bytes) = some bytes := by
  induction bytes with
  | nil => rfl
  | cons byte rest ih =>
      rw [encode, List.flatMap_cons, decode_encodeByte, ← encode, ih]
      rfl

theorem printable_encode {c : Char} (h : c ∈ encode bytes) : 0x20 ≤ c.toNat ∧ c.toNat ≤ 0x7E := by
  obtain ⟨byte, _, hChar⟩ := List.mem_flatMap.mp h
  exact ⟨flat_ofList.mp (flat_encodeByte byte) c hChar, toNat_le_of_mem_encodeByte hChar⟩

theorem quote_inj {other : Bytes} (h : quote bytes = quote other) : bytes = other := by
  have hInside : encode bytes = encode other := by
    simpa only [quote, String.append_left_inj, String.append_right_inj, String.ofList_inj] using h
  rw [← Option.some_inj, ← decode_encode bytes, hInside, decode_encode]

end Escaped

/-- Bytes begin with a letter, and texts with their quotation mark. -/
theorem Quoted.quote_ne (text : String) (bytes : Bytes) : quote text ≠ Escaped.quote bytes := by
  intro hEq
  have hChars : (quote text).toList = (Escaped.quote bytes).toList := by rw [hEq]
  rw [quote, encode, Escaped.quote, String.toList_append, String.toList_append,
    String.toList_ofList] at hChars
  exact absurd (List.cons.inj hChars).1 (by decide)

/-- What texts and bytes look like in a field. A text stays on its line and between its quotation marks,
and every reader of quoted texts gets it back. Bytes are printable characters without a mark that is not
escaped, and undoing the escapes gives them back. So two fields with such values look the same only if
they are the same, whatever a target has put into them. -/
theorem quotations_are_read_back (text : String) (bytes : Bytes) :
    (∃ inside, (Quoted.quote text).toList = '"' :: inside ++ ['"'] ∧ Guarded '"' inside) ∧
    (∀ c ∈ (Quoted.quote text).toList, 0x20 ≤ c.toNat) ∧
    Quoted.decode (Quoted.quote text).toList = some text.toList ∧
    (∀ c ∈ Escaped.encode bytes, 0x20 ≤ c.toNat ∧ c.toNat ≤ 0x7E) ∧
    (∀ mark ∈ ['"', '\''], Guarded mark (Escaped.encode bytes)) ∧
    Escaped.decode (Escaped.encode bytes) = some bytes ∧
    (∀ other, (FieldValue.text text).display = (FieldValue.text other).display ↔ text = other) ∧
    (∀ other, (FieldValue.bytes bytes).display = (FieldValue.bytes other).display ↔ bytes = other) ∧
    (FieldValue.text text).display ≠ (FieldValue.bytes bytes).display := by
  refine ⟨⟨text.toList.flatMap Quoted.encodeChar, ?_, .flatMap Quoted.guarded_encodeChar _⟩,
    Quoted.flat_quote text, Quoted.decode_quote text, fun _ => Escaped.printable_encode,
    fun mark hMark => .flatMap (Escaped.guarded_encodeByte hMark) bytes,
    Escaped.decode_encode bytes, ?_, ?_, Quoted.quote_ne text bytes⟩
  · rw [Quoted.quote, String.toList_ofList, Quoted.encode]
  · exact fun other => ⟨Quoted.quote_inj, fun hEq => by rw [hEq]⟩
  · exact fun other => ⟨Escaped.quote_inj, fun hEq => by rw [hEq]⟩

/-- A text and bytes that spell out escapes, and hold what has to be escaped. -/
theorem quotations_are_read_back_spelled_escapes :
    Quoted.decode (Quoted.quote "\\u0000\"\x07").toList =
      some ['\\', 'u', '0', '0', '0', '0', '"', '\x07'] ∧
    '~' ∈ Escaped.encode [0x5C, 0x78, 0x34, 0x31, 0x22, 0x00, 0x7E] ∧ 0x20 ≤ '~'.toNat ∧
    Escaped.decode (Escaped.encode [0x5C, 0x78, 0x34, 0x31, 0x22, 0x00, 0x7E]) =
      some [0x5C, 0x78, 0x34, 0x31, 0x22, 0x00, 0x7E] ∧
    (FieldValue.bytes [0x5C, 0x78, 0x34, 0x31, 0x22, 0x00, 0x7E]).display ≠
      (FieldValue.bytes [0x41, 0x22, 0x00, 0x7E]).display := by
  obtain ⟨_, _, hText, hPrintable, _, hBytes, _, hSame, _⟩ :=
    quotations_are_read_back "\\u0000\"\x07" [0x5C, 0x78, 0x34, 0x31, 0x22, 0x00, 0x7E]
  have hMem : '~' ∈ Escaped.encode [0x5C, 0x78, 0x34, 0x31, 0x22, 0x00, 0x7E] := by decide
  exact ⟨hText, hMem, (hPrintable _ hMem).1, hBytes, (not_congr (hSame _)).mpr (by decide)⟩

end HeapInspector
