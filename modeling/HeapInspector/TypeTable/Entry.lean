import HeapInspector.FileFault
import HeapInspector.TypeTable
import HeapInspector.TypeTable.Reader
import HeapInspector.TypeTable.WordText

/-!
Filling type tables: from entries of the form `NAME=ADDR`, and from files.
-/

namespace HeapInspector

namespace TypeTable

inductive Fault where
  | unreadable (path : String) (fault : FileFault)
  /-- The text is not of the form of a table in JSON. -/
  | malformed
  | address (fault : WordFault)
  /-- The entry has no equals sign, or no name in front of it. -/
  | entry (text : String)
  deriving DecidableEq, Repr

/-- What is reported. How a text fails to be JSON is left to the reader of the message. -/
def Fault.message : Fault → String
  | unreadable path fault => "cannot read type table " ++ path ++ ": " ++ fault.message
  | malformed => "invalid type table"
  | address fault => fault.message
  | entry text => "expected NAME=ADDR, found `" ++ text ++ "`"

/-- The name and the address of an entry, divided at its first equals sign. The name stands without
white space around it and may not be empty. -/
def splitEntry? (entry : String) : Option (String × String) :=
  let name := Blank.trim (entry.toList.takeWhile (· ≠ '='))
  match entry.toList.dropWhile (· ≠ '=') with
  | _ :: address => if name.isEmpty then none else some (String.ofList name, String.ofList address)
  | [] => none

/-- Adds an entry. The table is the one that the call leaves behind, whether it succeeds or not. -/
def addEntry (table : TypeTable) (entry : String) : Except Fault Unit × TypeTable :=
  match splitEntry? entry with
  | none => (.error (.entry entry), table)
  | some (name, address) =>
      match parseWord address with
      | .ok address => (.ok (), table.insert address name)
      | .error fault => (.error (.address fault), table)

def AddressForm.value : AddressForm → Except WordFault Nat
  | number value => .ok value
  | text value => parseWord value

/-- Of several members with one name, the last one counts. -/
def lastOfEachName : List (String × AddressForm) → List (String × AddressForm)
  | [] => []
  | (name, address) :: rest =>
      if rest.any (·.1 = name) then lastOfEachName rest
      else (name, address) :: lastOfEachName rest

/-- Inserts members in order. The first address that is not a word ends it. -/
def insertMembers (table : TypeTable) : List (String × AddressForm) → Except WordFault TypeTable
  | [] => .ok table
  | (name, address) :: rest => do (table.insert (← address.value) name).insertMembers rest

/-- The table in a text. -/
def ofJson (source : String) : Except Fault TypeTable :=
  match readMembers? source with
  | none => .error .malformed
  | some members => (empty.insertMembers (lastOfEachName members)).mapError .address

/-- The table in a file, whose contents are given. -/
def load (path : String) (contents : Except FileFault String) : Except Fault TypeTable :=
  match contents with
  | .ok source => ofJson source
  | .error fault => .error (.unreadable path fault)

end TypeTable

end HeapInspector
