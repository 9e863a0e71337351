/-!
Numbers in text: the decimal and hexadecimal forms that are printed, and the digits that are read.
-/

namespace HeapInspector.Numeral

/-- A natural number in decimal, without leading zeros. -/
def decimal (value : Nat) : String := String.ofList (Nat.toDigits 10 value)

/-- An integer in decimal, with a minus sign if it is negative. -/
def signedDecimal : Int → String
  | .ofNat value => decimal value
  | .negSucc value => "-" ++ decimal (value + 1)

/-- A natural number in lower-case hexadecimal behind `0x`, without padding. -/
def hex (value : Nat) : String := "0x" ++ String.ofList (Nat.toDigits 16 value)

/-- A byte as exactly two lower-case hexadecimal digits. -/
def byteDigits (byte : UInt8) : List Char :=
  [Nat.digitChar (byte.toNat / 16), Nat.digitChar (byte.toNat % 16)]

/-- The value of a digit of either case, if it is one in the given base. Only ASCII digits count. -/
def digit? (base : Nat) (c : Char) : Option Nat :=
  let value :=
    if '0' ≤ c ∧ c ≤ '9' then some (c.toNat - '0'.toNat)
    else if 'a' ≤ c ∧ c ≤ 'z' then some (c.toNat - 'a'.toNat + 10)
    else if 'A' ≤ c ∧ c ≤ 'Z' then some (c.toNat - 'A'.toNat + 10)
    else none
  value.filter (· < base)

/-- The number that a row of digit values denotes, the most significant one first. -/
def ofDigits (base : Nat) (digits : List Nat) : Nat :=
  digits.foldl (fun value digit => value * base + digit) 0

/-- Why a text is not an unsigned integer. -/
inductive Fault where
  | empty
  | invalidDigit
  | tooLarge
  deriving DecidableEq, Repr

/-- The words in which a malformed number is reported. -/
def Fault.message : Fault → String
  | empty => "cannot parse integer from empty string"
  | invalidDigit => "invalid digit found in string"
  | tooLarge => "number too large to fit in target type"

/-- Reads digits from the most significant one on, and stops at the first character that is not a
digit or that carries the value past the bound. -/
def readDigits (base bound : Nat) : Nat → List Char → Except Fault Nat
  | value, [] => .ok value
  | value, c :: rest =>
      match digit? base c with
      | none => .error .invalidDigit
      | some digit =>
          let next := value * base + digit
          if next < bound then readDigits base bound next rest else .error .tooLarge

/-- Reads an unsigned integer below the bound: an optional plus sign and at least one digit. A sign
that stands alone is a digit that is not one. -/
def readUnsigned (base bound : Nat) : List Char → Except Fault Nat
  | [] => .error .empty
  | ['+'] => .error .invalidDigit
  | '+' :: rest => readDigits base bound 0 rest
  | text => readDigits base bound 0 text

end HeapInspector.Numeral
