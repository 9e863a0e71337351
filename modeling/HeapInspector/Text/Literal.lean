import HeapInspector.Text.Literal.Table
import HeapInspector.Text.Numeral

/-!
Text as a literal for developers: between quotation marks, with every character that could not be
seen on its own replaced by its code point.
-/

namespace HeapInspector.Literal

def isHidden (c : Char) : Bool := hiddenRanges.holds c

def encodeChar (c : Char) : List Char :=
  if c = '\x00' then ['\\', '0']
  else if c = '\t' then ['\\', 't']
  else if c = '\r' then ['\\', 'r']
  else if c = '\n' then ['\\', 'n']
  else if c = '"' then ['\\', '"']
  else if c = '\\' then ['\\', '\\']
  else if isHidden c then ['\\', 'u', '\x7b'] ++ Nat.toDigits 16 c.toNat ++ ['\x7d']
  else [c]

/-- The literal that stands for a text. -/
def quote (text : String) : String :=
  String.ofList ('"' :: text.toList.flatMap encodeChar ++ ['"'])

end HeapInspector.Literal
