import HeapInspector.Architecture
import HeapInspector.Text.Blank
import HeapInspector.Text.Numeral

/-!
Words as users write them: in hexadecimal behind `0x` or in decimal, with underscores anywhere among
the digits and white space around.
-/

namespace HeapInspector

/-- A text that is not a word. -/
structure WordFault where
  /-- The text without the white space around it. -/
  text : String
  fault : Numeral.Fault
  deriving DecidableEq, Repr

def WordFault.message (fault : WordFault) : String :=
  "invalid address `" ++ fault.text ++ "`: " ++ fault.fault.message

/-- Splits off the mark of hexadecimal numbers. The base of the numeral comes first. -/
def splitBase : List Char → Nat × List Char
  | '0' :: 'x' :: rest => (16, rest)
  | '0' :: 'X' :: rest => (16, rest)
  | text => (10, text)

/-- The word that a text without white space around it denotes. -/
def readWordText (text : List Char) : Except Numeral.Fault Nat :=
  let (base, numeral) := splitBase text
  Numeral.readUnsigned base machineBound (numeral.filter (· ≠ '_'))

def parseWord (text : String) : Except WordFault Nat :=
  let trimmed := Blank.trim text.toList
  (readWordText trimmed).mapError (⟨String.ofList trimmed, ·⟩)

end HeapInspector
