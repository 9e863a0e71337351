import HeapInspector.Architecture
import HeapInspector.Text.Quoted

/-!
Type tables in JSON: one object that maps each name to an address, which is a number or a text. No
other value may occur in it, so a number with a sign, a fraction or an exponent makes the table
unacceptable like any other text that is not of this form.
-/

namespace HeapInspector.TypeTable

/-- An address as it is written in a table. -/
inductive AddressForm where
  | number (value : Nat)
  | text (text : String)
  deriving DecidableEq, Repr

namespace Reader

def isSpace (c : Char) : Bool := c = ' ' || c = '\t' || c = '\n' || c = '\r'

def skipSpace (text : List Char) : List Char := text.dropWhile isSpace

def isDigit (c : Char) : Bool := '0' ≤ c && c ≤ '9'

/-- Whether a number goes on here with something that makes it other than a natural number. -/
def continuesNumber : List Char → Bool
  | c :: _ => c = '.' || c = 'e' || c = 'E'
  | [] => false

/-- Reads a natural number without leading zeros and what follows it. -/
def number? (text : List Char) : Option (Nat × List Char) :=
  let digits := text.takeWhile isDigit
  let rest := text.dropWhile isDigit
  if digits.isEmpty ∨ (1 < digits.length ∧ digits.head? = some '0') ∨ continuesNumber rest then none
  else
    match Numeral.readDigits 10 machineBound 0 digits with
    | .ok value => some (value, rest)
    | .error _ => none

def string? : List Char → Option (String × List Char)
  | '"' :: rest => (Quoted.readTail rest).map fun (text, after) => (String.ofList text, after)
  | _ => none

def address? (text : List Char) : Option (AddressForm × List Char) :=
  match text with
  | '"' :: _ => (string? text).map fun (text, after) => (.text text, after)
  | _ => (number? text).map fun (value, after) => (.number value, after)

def expect? (c : Char) (text : List Char) : Option (List Char) :=
  match skipSpace text with
  | first :: rest => if first = c then some rest else none
  | [] => none

/-- Reads one name with its address and what follows them. -/
def member? (text : List Char) : Option ((String × AddressForm) × List Char) := do
  let (name, text) ← string? (skipSpace text)
  let text ← expect? ':' text
  let (address, text) ← address? (skipSpace text)
  return ((name, address), text)

/-- Reads the members of an object up to its end. There is one at least, and at most as many as the
text has characters. -/
def members? : Nat → List Char → Option (List (String × AddressForm) × List Char)
  | 0, _ => none
  | limit + 1, text => do
      let (first, text) ← member? text
      match expect? ',' text with
      | some text =>
          let (rest, text) ← members? limit text
          return (first :: rest, text)
      | none => return ([first], ← expect? '\x7d' text)

/-- Only white space may follow. -/
def atEnd? (entries : List (String × AddressForm)) (text : List Char) :
    Option (List (String × AddressForm)) :=
  if (skipSpace text).isEmpty then some entries else none

end Reader

/-- The names and addresses of a table, in the order in which they are written. -/
def readMembers? (source : String) : Option (List (String × AddressForm)) := do
  let text ← Reader.expect? '\x7b' source.toList
  match Reader.expect? '\x7d' text with
  | some text => Reader.atEnd? [] text
  | none =>
      let (entries, text) ← Reader.members? text.length text
      Reader.atEnd? entries text

end HeapInspector.TypeTable
