/-!
Text as bytes. The encoding is the one of the Unicode standard: neither overlong forms nor
surrogates are accepted.
-/

namespace HeapInspector.Utf8

/-- The number of bytes that encode a text. -/
def size : List Char → Nat
  | [] => 0
  | c :: rest => c.utf8Size + size rest

/-- The front of a text that has a number of bytes, if the text can be divided there. -/
def take? : List Char → Nat → Option (List Char)
  | _, 0 => some []
  | [], _ + 1 => none
  | c :: rest, count + 1 =>
      if c.utf8Size ≤ count + 1 then (take? rest (count + 1 - c.utf8Size)).map (c :: ·) else none

def encode (text : String) : List UInt8 := text.toUTF8.data.toList

/-- The text that the bytes encode, if they encode one. -/
def decode (bytes : List UInt8) : Option String := String.fromUTF8? ⟨bytes.toArray⟩

@[simp] theorem decode_encode (text : String) : decode (encode text) = some text := by
  have valid : ByteArray.IsValidUTF8 ⟨(encode text).toArray⟩ := text.isValidUTF8
  exact dif_pos valid

/-- At its end every text can be divided. -/
@[simp] theorem take?_size (text : List Char) : take? text (size text) = some text := by
  induction text with
  | nil => rfl
  | cons c rest ih =>
    obtain ⟨count, hCount⟩ : ∃ count, size (c :: rest) = count + 1 :=
      ⟨size (c :: rest) - 1, by have := c.utf8Size_pos; simp only [size]; omega⟩
    have hFits : c.utf8Size ≤ count + 1 := by simp only [size] at hCount; omega
    have hRest : count + 1 - c.utf8Size = size rest := by simp only [size] at hCount; omega
    rw [hCount, take?, if_pos hFits, hRest, ih, Option.map_some]

end HeapInspector.Utf8
