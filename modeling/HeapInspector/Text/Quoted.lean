import HeapInspector.Text.Numeral

/-!
Quoted text: a text between quotation marks in which the quotation mark, the backslash and the
control characters are escaped, so that it stays on one line. `encode` writes the short escapes
where there is one; `readTail` accepts every spelling of the JSON grammar for strings.
-/

namespace HeapInspector.Quoted

/-- The letter of a control character that has a short escape. -/
def shortEscape? (c : Char) : Option Char :=
  if c = '"' then some '"'
  else if c = '\\' then some '\\'
  else if c = '\x08' then some 'b'
  else if c = '\x0c' then some 'f'
  else if c = '\n' then some 'n'
  else if c = '\r' then some 'r'
  else if c = '\t' then some 't'
  else none

/-- One character as it stands between the quotation marks. -/
def encodeChar (c : Char) : List Char :=
  match shortEscape? c with
  | some letter => ['\\', letter]
  | none =>
      if c.toNat < 0x20 then ['\\', 'u', '0', '0'] ++ Numeral.byteDigits (UInt8.ofNat c.toNat)
      else [c]

def encode (text : List Char) : List Char := '"' :: text.flatMap encodeChar ++ ['"']

/-- A text in quotation marks. -/
def quote (text : String) : String := String.ofList (encode text.toList)

/-- The character that an escape of one letter stands for. -/
def ofShortEscape? : Char → Option Char
  | '"' => some '"'
  | '\\' => some '\\'
  | '/' => some '/'
  | 'b' => some '\x08'
  | 'f' => some '\x0c'
  | 'n' => some '\n'
  | 'r' => some '\r'
  | 't' => some '\t'
  | _ => none

/-- The UTF-16 unit that four hexadecimal digits denote. -/
def unit? (a b c d : Char) : Option Nat := do
  let digits ← [a, b, c, d].mapM (Numeral.digit? 16)
  return Numeral.ofDigits 16 digits

def isHighSurrogate (unit : Nat) : Bool := 0xD800 ≤ unit && unit ≤ 0xDBFF

def isLowSurrogate (unit : Nat) : Bool := 0xDC00 ≤ unit && unit ≤ 0xDFFF

/-- The character of a surrogate pair. -/
def ofSurrogates (high low : Nat) : Char :=
  Char.ofNat (0x10000 + (high - 0xD800) * 0x400 + (low - 0xDC00))

/-- Reads the rest of a quoted text whose first quotation mark has been read. The answer is the text
and what follows the closing mark. Raw control characters and lone surrogates are refused. -/
def readTail : List Char → Option (List Char × List Char)
  | '"' :: rest => some ([], rest)
  | '\\' :: 'u' :: a :: b :: c :: d :: rest =>
      match unit? a b c d with
      | none => none
      | some unit =>
          if isHighSurrogate unit then
            match rest with
            | '\\' :: 'u' :: e :: f :: g :: h :: rest =>
                match unit? e f g h with
                | none => none
                | some low =>
                    if isLowSurrogate low then
                      (readTail rest).map fun (text, after) => (ofSurrogates unit low :: text, after)
                    else none
            | _ => none
          else if isLowSurrogate unit then none
          else (readTail rest).map fun (text, after) => (Char.ofNat unit :: text, after)
  | '\\' :: letter :: rest =>
      match ofShortEscape? letter with
      | none => none
      | some c => (readTail rest).map fun (text, after) => (c :: text, after)
  | c :: rest =>
      if c = '\\' ∨ c.toNat < 0x20 then none
      else (readTail rest).map fun (text, after) => (c :: text, after)
  | [] => none

end HeapInspector.Quoted
