import HeapInspector.Text.Numeral

/-!
Bytes as printable ASCII. A byte is written as the character it is in ASCII where that character is
printable and needs no escape, and otherwise behind a backslash.
-/

namespace HeapInspector.Escaped

/-- The bytes with an escape of one letter, and that letter. -/
def shortEscapes : List (UInt8 × Char) :=
  [(0x09, 't'), (0x0D, 'r'), (0x0A, 'n'), (0x27, '\''), (0x22, '"'), (0x5C, '\\')]

def encodeByte (byte : UInt8) : List Char :=
  match shortEscapes.lookup byte with
  | some letter => ['\\', letter]
  | none =>
      if 0x20 ≤ byte ∧ byte < 0x7F then [Char.ofNat byte.toNat]
      else '\\' :: 'x' :: Numeral.byteDigits byte

def encode (bytes : List UInt8) : List Char := bytes.flatMap encodeByte

/-- The bytes between quotation marks behind the letter `b`. -/
def quote (bytes : List UInt8) : String := "b\"" ++ String.ofList (encode bytes) ++ "\""

end HeapInspector.Escaped
