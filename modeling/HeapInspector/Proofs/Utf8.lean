import HeapInspector.Text.Utf8

/-! Text that ends at a zero. A zero byte encodes the null character and nothing else, so cutting bytes
at the first zero cuts the text at its first null character. -/
namespace HeapInspector.Utf8

/-- Nothing but its own encoding is decoded to a text. -/
theorem decode_eq_some_iff {data : List UInt8} {text : String} :
    decode data = some text ↔ encode text = data := by
  constructor
  · intro h
    unfold decode String.fromUTF8? at h
    split at h
    · obtain rfl := Option.some.inj h
      rfl
    · cases h
  · rintro rfl
    exact decode_encode text

theorem encode_eq_flatMap (text : String) :
    encode text = text.toList.flatMap String.utf8EncodeChar := by
  have hText : text.toUTF8 = text.toList.utf8Encode := by
    rw [String.utf8Encode_toList]
    rfl
  rw [encode, hText, List.utf8Encode, List.data_toByteArray]

theorem encode_ofList (characters : List Char) :
    encode (String.ofList characters) = characters.flatMap String.utf8EncodeChar := by
  rw [encode_eq_flatMap, String.toList_ofList]

theorem ofNat_ne_zero {value : Nat} (hPositive : value ≠ 0) (hFits : value < 256) :
    UInt8.ofNat value ≠ 0 := by
  intro hZero
  have hNat := congrArg UInt8.toNat hZero
  simp only [UInt8.toNat_ofNat', UInt8.toNat_zero] at hNat
  omega

/-- No byte of a character is zero, unless the character is the null character. All bytes of longer
forms carry a mark in their high bits. -/
theorem ne_zero_of_mem_utf8EncodeChar {c : Char} (hNull : c ≠ '\x00') {byte : UInt8}
    (hMem : byte ∈ String.utf8EncodeChar c) : byte ≠ 0 := by
  have hValue : c.val.toNat ≠ 0 := by
    intro hZero
    apply hNull
    apply Char.ext
    exact UInt32.toNat_inj.mp hZero
  unfold String.utf8EncodeChar at hMem
  dsimp only at hMem
  split at hMem
  · rw [List.mem_singleton.mp hMem]
    exact ofNat_ne_zero hValue (by omega)
  · split at hMem
    · simp only [List.mem_cons, List.not_mem_nil, or_false] at hMem
      rcases hMem with rfl | rfl
      · exact ofNat_ne_zero (by omega) (by omega)
      · exact ofNat_ne_zero (by omega) (by omega)
    · split at hMem
      · simp only [List.mem_cons, List.not_mem_nil, or_false] at hMem
        rcases hMem with rfl | rfl | rfl
        · exact ofNat_ne_zero (by omega) (by omega)
        · exact ofNat_ne_zero (by omega) (by omega)
        · exact ofNat_ne_zero (by omega) (by omega)
      · simp only [List.mem_cons, List.not_mem_nil, or_false] at hMem
        rcases hMem with rfl | rfl | rfl | rfl
        · exact ofNat_ne_zero (by omega) (by omega)
        · exact ofNat_ne_zero (by omega) (by omega)
        · exact ofNat_ne_zero (by omega) (by omega)
        · exact ofNat_ne_zero (by omega) (by omega)

theorem takeWhile_flatMap_utf8EncodeChar (characters : List Char) :
    (characters.flatMap String.utf8EncodeChar).takeWhile (· ≠ 0) =
      (characters.takeWhile (· ≠ '\x00')).flatMap String.utf8EncodeChar := by
  induction characters with
  | nil => rfl
  | cons c rest ih =>
      rw [List.flatMap_cons]
      by_cases hNull : c = '\x00'
      · subst hNull
        rfl
      · have hBytes : ∀ byte ∈ String.utf8EncodeChar c, decide (byte ≠ 0) = true := by
          intro byte hMem
          exact decide_eq_true (ne_zero_of_mem_utf8EncodeChar hNull hMem)
        rw [List.takeWhile_append_of_pos hBytes, ih, List.takeWhile_cons_of_pos (by simpa using hNull),
          List.flatMap_cons]

/-- The zeros behind a text do not change where it ends. -/
theorem takeWhile_append_zeros (data : List UInt8) (count : Nat) :
    (data ++ List.replicate count 0).takeWhile (· ≠ 0) = data.takeWhile (· ≠ 0) := by
  induction data with
  | nil => cases count <;> rfl
  | cons byte rest ih =>
      by_cases hZero : byte = 0
      · simp [hZero]
      · simpa [hZero] using ih

/-- The text that is read up to the first zero is the text up to its first null character. -/
theorem decode_takeWhile_encode (text : String) (count : Nat) :
    decode ((encode text ++ List.replicate count 0).takeWhile (· ≠ 0)) =
      some (String.ofList (text.toList.takeWhile (· ≠ '\x00'))) := by
  rw [takeWhile_append_zeros, encode_eq_flatMap, takeWhile_flatMap_utf8EncodeChar, ← encode_ofList,
    decode_encode]

end HeapInspector.Utf8
