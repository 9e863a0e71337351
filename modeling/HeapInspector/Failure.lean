import HeapInspector.Architecture
import HeapInspector.Text.Numeral

/-!
What can go wrong. An `Error` is an answer to corrupt or unreadable memory, or to a setup that makes
no sense, and is reported to the user. A `Defect` is a broken promise inside the program: it stands
for the places where a machine would stop, so that one can state that they are never reached.
-/

namespace HeapInspector

/-- A read that the host of the target refused, in the host's own words. -/
structure AccessFault where
  address : Nat
  size : Nat
  reason : String
  deriving DecidableEq, Repr

/-- How the payload of an object contradicts itself. -/
inductive Inconsistency where
  /-- A stored slot count is below one. -/
  | invalidSlotCount (count : Int)
  /-- A word that has to hold a small integer does not. -/
  | notSmallInt (word : Nat)
  /-- A word that has to reference an object is null or a small integer. -/
  | notReference (word : Nat)
  | invalidUtf8
  | invalidCodePoint (code : Nat)
  /-- An array is longer than the storage it points to. -/
  | lengthExceedsStorage (length capacity : Nat)
  /-- The data that a length calls for does not fit into the stored size. -/
  | lengthExceedsExtent (dataSize extent : Nat)
  | implausibleSize (size : Nat)
  /-- A reference with bit 1 set. -/
  | misalignedReference
  deriving DecidableEq, Repr

inductive Error where
  | memoryAccess (fault : AccessFault)
  /-- The object at the address cannot be decoded. -/
  | decode (address : Nat) (kind : Inconsistency)
  | duplicateDecoder (key : String)
  deriving DecidableEq, Repr

/-- Promises that the program makes to itself and to the callers of the image builder. -/
inductive Defect where
  | indexOutOfBounds
  | arithmeticOverflow
  /-- More than eight bytes are to be read as one integer. -/
  | integerTooWide
  | overlappingSegment (base : Nat)
  | unfitSmallInt (value : Int) (width : Width)
  deriving DecidableEq, Repr

inductive Failure where
  | error (error : Error)
  | defect (defect : Defect)
  deriving DecidableEq, Repr

open Numeral in
def AccessFault.message (fault : AccessFault) : String :=
  "cannot read " ++ decimal fault.size ++ " bytes at " ++ hex fault.address ++ ": " ++ fault.reason

open Numeral in
def Inconsistency.message : Inconsistency → String
  | invalidSlotCount count => "stored slot count " ++ signedDecimal count ++ " is less than 1"
  | notSmallInt word => "expected a small integer, found " ++ hex word
  | notReference word => "expected an object reference, found " ++ hex word
  | invalidUtf8 => "text is not valid UTF-8"
  | invalidCodePoint code => hex code ++ " is not a Unicode scalar value"
  | lengthExceedsStorage length capacity =>
      "length " ++ decimal length ++ " exceeds storage capacity " ++ decimal capacity
  | lengthExceedsExtent dataSize extent =>
      decimal dataSize ++ " bytes of data do not fit in a " ++ decimal extent ++ " byte extent"
  | implausibleSize size => "implausible size " ++ decimal size
  | misalignedReference => "reference is not word aligned"

def Error.message : Error → String
  | memoryAccess fault => fault.message
  | decode address kind =>
      "cannot decode object at " ++ Numeral.hex address ++ ": " ++ kind.message
  | duplicateDecoder key => "a decoder is already registered for type `" ++ key ++ "`"

def Error.isMemoryAccess : Error → Bool
  | memoryAccess _ => true
  | _ => false

/-- The contradiction that a decode error reports. -/
def Error.inconsistency? : Error → Option Inconsistency
  | decode _ kind => some kind
  | _ => none

open Numeral in
def Defect.message : Defect → String
  | indexOutOfBounds => "index out of bounds"
  | arithmeticOverflow => "arithmetic overflow"
  | integerTooWide => "integer of more than 8 bytes"
  | overlappingSegment base => "segment at " ++ hex base ++ " overlaps an existing segment"
  | unfitSmallInt value width =>
      signedDecimal value ++ " does not fit in a " ++ decimal width.bits ++ "-bit small integer"

end HeapInspector
