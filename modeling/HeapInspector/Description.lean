import HeapInspector.Registry

/-!
Descriptions of tagged values. Describing an object reads its header and nothing else; its value and
its fields are read when they are asked for.
-/

namespace HeapInspector

/-- Everything that is needed to describe values, except for the memory they are in. -/
structure Introspector where
  arch : Architecture
  /-- The name of the type whose descriptor is at an address, as far as it is known. -/
  typeName : Nat → Option String
  registry : Registry

/-- The type of an object: its name, or the address of its descriptor if that has no name. -/
inductive TypeName where
  | named (name : String)
  | unnamed (address : Nat)
  deriving DecidableEq, Repr

namespace TypeName

def name? : TypeName → Option String
  | named name => some name
  | unnamed _ => none

def display : TypeName → String
  | named name => name
  | unnamed address => "<" ++ Numeral.hex address ++ ">"

end TypeName

structure ObjectDescription where
  object : ObjectRef
  typeName : TypeName
  decoder : Decoder

inductive Description where
  | null
  | smallInt (value : Int)
  | object (description : ObjectDescription)

namespace ObjectDescription

def address (d : ObjectDescription) : Nat := d.object.address

def header (d : ObjectDescription) : ObjectHeader := d.object.header

def value (d : ObjectDescription) : Inquiry (Option String) := d.decoder.value d.object

def fields (d : ObjectDescription) : Inquiry Fields := d.decoder.fields d.object

def display (d : ObjectDescription) : String :=
  Numeral.hex d.address ++ " zis_object\x7b type=" ++ d.typeName.display ++
    ", gc_info=\x7bstate=" ++ d.header.gcState.name ++
    ", marked=" ++ FieldValue.displayBool d.header.marked ++ "\x7d \x7d"

end ObjectDescription

namespace Description

def display : Description → String
  | null => Tagged.null.display
  | smallInt value => (Tagged.smallInt value).display
  | object description => description.display

end Description

namespace Introspector

/-- Describes the object at an address. An address with bit 1 set cannot be one, and is refused
before anything is read. -/
def describeObject (i : Introspector) (address : Nat) : Inquiry ObjectDescription := do
  if address / 2 % 2 = 1 then Inquiry.error (.decode address .misalignedReference)
  else
    let header ← i.arch.readHeader address
    let typeName := match i.typeName header.typeAddress with
      | some name => .named name
      | none => .unnamed header.typeAddress
    return ⟨⟨i.arch, address, header⟩, typeName, i.registry.lookup typeName.name?⟩

def describeTagged (i : Introspector) : Tagged → Inquiry Description
  | .null => return .null
  | .smallInt value => return .smallInt value
  | .reference address => return .object (← i.describeObject address)

/-- Describes the value that a word holds. -/
def describe (i : Introspector) (word : Nat) : Inquiry Description :=
  i.describeTagged (Tagged.classify i.arch.width word)

end Introspector

end HeapInspector
