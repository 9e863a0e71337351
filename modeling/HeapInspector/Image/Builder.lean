import HeapInspector.Binary64
import HeapInspector.Image
import HeapInspector.Object.Header
import HeapInspector.Tagged
import HeapInspector.Text.Utf8
import HeapInspector.TypeKey

/-!
Laying out objects. A builder places one object after another, each at the next word boundary, and
starts a new segment when it is told to go on elsewhere.
-/

namespace HeapInspector

/-- A piece of the payload of an object. -/
inductive BodyPart where
  /-- A raw word. Bits above the width are dropped. -/
  | word (word : Nat)
  /-- A tagged small integer. -/
  | smallInt (value : Int)
  /-- An unsigned integer of the given size. -/
  | unsigned (value size : Nat)
  | float (value : Binary64)
  | raw (bytes : Bytes)
  deriving DecidableEq, Repr

/-- The bytes of a piece. A small integer must fit the width. -/
def BodyPart.encode (arch : Architecture) : BodyPart → Except Defect Bytes
  | word value => .ok (arch.encodeWord value)
  | smallInt value =>
      match encodeSmallInt? arch.width value with
      | some encoded => .ok (arch.encodeWord encoded)
      | none => .error (.unfitSmallInt value arch.width)
  | unsigned value size => .ok (arch.order.encode size value)
  | float value => .ok (arch.order.encode 8 value.bits.toNat)
  | raw bytes => .ok bytes

def BodyPart.encodeAll (arch : Architecture) (parts : List BodyPart) : Except Defect Bytes := do
  return (← parts.mapM (encode arch)).flatten

/-- An object to be placed. -/
structure ObjectPlan where
  header : ObjectHeader
  body : Bytes
  deriving DecidableEq, Repr

/-- The object in bytes: the two words of the header, and the payload. -/
def ObjectPlan.encode (arch : Architecture) (plan : ObjectPlan) : Bytes :=
  let (first, second) := plan.header.toWords
  arch.encodeWord first ++ arch.encodeWord second ++ plan.body

/-- A young, unmarked object of a type. -/
def ObjectPlan.young (typeAddress : Nat) (body : Bytes) : ObjectPlan :=
  ⟨⟨typeAddress, .new, false, 0⟩, body⟩

structure ImageBuilder where
  image : MemoryImage
  /-- Where the pending bytes will start. -/
  base : Nat
  /-- What has been placed since the last segment was finished. -/
  pending : Bytes
  /-- The first descriptor that is named as the type of types. -/
  typeOfTypes : Option Nat
  deriving DecidableEq, Repr

/-- What a builder can be told to do. -/
inductive BuildStep where
  /-- Go on at an address. -/
  | moveTo (address : Nat)
  | nameType (address : Nat) (name : String)
  /-- Lay out a named type descriptor. A part without a size is extendable. -/
  | typeDescriptor (name : String) (slots bytes : Option Nat)
  /-- Lay out an object with slots, the count in front. -/
  | slots (typeAddress : Nat) (items : List Nat)
  | symbol (typeAddress : Nat) (text : String) (hash : Nat)
  /-- Lay out a string with elements of one byte. -/
  | string (typeAddress : Nat) (text : String)
  | bytes (typeAddress : Nat) (data : Bytes)
  | object (header : ObjectHeader) (body : List BodyPart)
  /-- Begin an object and drop it before it is placed. The zeros in front of it stay. -/
  | abandon (body : List BodyPart)
  deriving DecidableEq, Repr

/-- What a step comes to once all parts of its object are encoded. -/
inductive BuildAction where
  | moveTo (address : Nat)
  | nameType (address : Nat) (name : String)
  /-- Place an object. A type descriptor is named as well. -/
  | place (plan : ObjectPlan) (name : Option String)
  /-- Fill up to the boundary and place nothing there. -/
  | pad
  deriving DecidableEq, Repr

namespace ImageBuilder

def defaultBase : Nat := 0x1000

def new (arch : Architecture) : ImageBuilder := ⟨.empty arch, defaultBase, [], none⟩

def arch (builder : ImageBuilder) : Architecture := builder.image.arch

/-- The least multiple of the word size that is not less than the size. -/
def roundUp (wordSize size : Nat) : Nat := (size + wordSize - 1) / wordSize * wordSize

/-- Where the next object will be placed. -/
def position (builder : ImageBuilder) : Nat :=
  builder.base + roundUp builder.arch.wordSize builder.pending.length

/-- Finishes the segment that is being filled. -/
def flush (builder : ImageBuilder) : Except Defect ImageBuilder :=
  if builder.pending.isEmpty then .ok builder
  else do
    let image ← builder.image.addSegment builder.base builder.pending
    return { builder with image, base := builder.base + builder.pending.length, pending := [] }

/-- The builder with as many zeros as the boundary asks for. -/
def pad (builder : ImageBuilder) : ImageBuilder :=
  let padding := builder.position - builder.base - builder.pending.length
  { builder with pending := builder.pending ++ List.replicate padding 0 }

/-- Places an object at the position. -/
def place (builder : ImageBuilder) (plan : ObjectPlan) : Nat × ImageBuilder :=
  let padded := builder.pad
  (builder.position, { padded with pending := padded.pending ++ plan.encode builder.arch })

/-- The payload of a type descriptor. The largest word stands for an extendable part. -/
def descriptorBody (arch : Architecture) (slots bytes : Option Nat) : Bytes :=
  [0, 0, 0, slots.getD arch.width.mask, bytes.getD arch.width.mask, 0].flatMap arch.encodeWord

def descriptorPlan (arch : Architecture) (typeAddress : Nat) (slots bytes : Option Nat) : ObjectPlan :=
  ⟨⟨typeAddress, .old, false, 0⟩, descriptorBody arch slots bytes⟩

def slotsBody (arch : Architecture) (items : List Nat) : Except Defect Bytes :=
  BodyPart.encodeAll arch (.smallInt (items.length + 1) :: items.map .word)

/-- The payload of a symbol: its size, no link, its hash, and its text with at least one zero behind
it and as many more as fill a word. -/
def symbolBody (arch : Architecture) (text : String) (hash : Nat) : Bytes :=
  let data := Utf8.encode text
  let padded := (data.length / arch.wordSize + 1) * arch.wordSize
  arch.encodeWord (3 * arch.wordSize + padded) ++ arch.encodeWord 0 ++ arch.encodeWord hash ++
    data ++ List.replicate (padded - data.length) 0

def stringBody (arch : Architecture) (text : String) : Bytes :=
  let data := Utf8.encode text
  arch.encodeWord (2 * arch.wordSize + data.length) ++ arch.encodeWord (data.length * 4) ++ data

def bytesBody (arch : Architecture) (data : Bytes) : Bytes :=
  arch.encodeWord (2 * arch.wordSize + data.length) ++ arch.encodeWord data.length ++ data

/-- What a step comes to, unless a part of an object cannot be encoded. Until there is a type of types, a
descriptor is its own type. -/
def action (builder : ImageBuilder) : BuildStep → Except Defect BuildAction
  | .moveTo address => .ok (.moveTo address)
  | .nameType address name => .ok (.nameType address name)
  | .typeDescriptor name slots bytes =>
      let typeAddress := builder.typeOfTypes.getD builder.position
      .ok (.place (descriptorPlan builder.arch typeAddress slots bytes) name)
  | .slots typeAddress items => do
      return .place (.young typeAddress (← slotsBody builder.arch items)) none
  | .symbol typeAddress text hash =>
      .ok (.place (.young typeAddress (symbolBody builder.arch text hash)) none)
  | .string typeAddress text =>
      .ok (.place (.young typeAddress (stringBody builder.arch text)) none)
  | .bytes typeAddress data =>
      .ok (.place (.young typeAddress (bytesBody builder.arch data)) none)
  | .object header body => do
      return .place ⟨header, ← BodyPart.encodeAll builder.arch body⟩ none
  | .abandon body => do
      let _ ← BodyPart.encodeAll builder.arch body
      return .pad

/-- Names the type that was placed at an address. The first one that is named as the type of types is
remembered. -/
def nameDescriptor (builder : ImageBuilder) (address : Nat) (name : String) : ImageBuilder :=
  let typeOfTypes := builder.typeOfTypes.or
    (if TypeKey.ofName name = ⟨"type"⟩ then some address else none)
  { builder with typeOfTypes, image := builder.image.nameType address name }

/-- The builder behind an action. The address is the one that the action is about: where the object was
placed, the address that was named, or the position after the move or the zeros. -/
def act (builder : ImageBuilder) : BuildAction → Except Defect (Nat × ImageBuilder)
  | .moveTo address => do
      let builder := { (← builder.flush) with base := address }
      return (builder.position, builder)
  | .nameType address name =>
      .ok (address, { builder with image := builder.image.nameType address name })
  | .place plan none => .ok (builder.place plan)
  | .place plan (some name) =>
      let (address, placed) := builder.place plan
      .ok (address, placed.nameDescriptor address name)
  | .pad => .ok (builder.position, builder.pad)

def perform (builder : ImageBuilder) (step : BuildStep) : Except Defect (Nat × ImageBuilder) := do
  builder.act (← builder.action step)

/-- The finished image. -/
def build (builder : ImageBuilder) : Except Defect MemoryImage := do
  return (← builder.flush).image

end ImageBuilder

end HeapInspector
