import HeapInspector.Description
import HeapInspector.Json

/-!
Snapshots: descriptions with everything read. Whatever cannot be read is replaced by a text that
tells why, so that taking a snapshot never fails.
-/

namespace HeapInspector

structure FieldSnapshot where
  name : String
  value : String
  /-- Whether the field references another object. -/
  reference : Bool
  deriving DecidableEq, Repr

structure ObjectSnapshot where
  address : Nat
  typeName : String
  gcState : GcState
  marked : Bool
  value : Option String
  fields : List FieldSnapshot
  /-- Why the fields cannot be located. -/
  error : Option String
  deriving DecidableEq, Repr

inductive Snapshot where
  | null
  | smallInt (value : Int)
  | object (snapshot : ObjectSnapshot)
  deriving DecidableEq, Repr

def FieldSnapshot.ofField (field : Field) : FieldSnapshot :=
  ⟨field.name, field.value.display, field.value.isReference⟩

def ObjectDescription.snapshot (d : ObjectDescription) : Inquiry ObjectSnapshot := do
  let value ← d.value.attempt
  let fields ← d.fields.attempt
  let (fields, error) ← match fields with
    | .ok fields => do pure ((← fields.all).map FieldSnapshot.ofField, none)
    | .error error => pure ([], some error.message)
  return {
    address := d.address
    typeName := d.typeName.display
    gcState := d.header.gcState
    marked := d.header.marked
    value := match value with
      | .ok value => value
      | .error error => some (FieldValue.unavailable error).display
    fields
    error }

def Description.snapshot : Description → Inquiry Snapshot
  | null => return .null
  | smallInt value => return .smallInt value
  | object description => return .object (← description.snapshot)

namespace FieldSnapshot

def toJson (field : FieldSnapshot) : Json :=
  .object [("name", .string field.name), ("value", .string field.value),
    ("reference", .bool field.reference)]

end FieldSnapshot

namespace ObjectSnapshot

/-- The error is left out if there is none; a value that is missing is null. -/
def members (s : ObjectSnapshot) : List (String × Json) :=
  [("address", .integer s.address), ("type_name", .string s.typeName),
    ("gc", .object [("state", .string s.gcState.name), ("marked", .bool s.marked)]),
    ("value", s.value.elim .null .string),
    ("fields", .array (s.fields.map FieldSnapshot.toJson))] ++
  s.error.toList.map fun error => ("error", .string error)

end ObjectSnapshot

def Snapshot.toJson : Snapshot → Json
  | null => .object [("kind", .string "null")]
  | smallInt value => .object [("kind", .string "smallint"), ("value", .integer value)]
  | object snapshot => .object (("kind", .string "object") :: snapshot.members)

end HeapInspector
