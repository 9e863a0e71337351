import HeapInspector.Inquiry
import HeapInspector.TypeTable

/-!
Memory images: the contents of some ranges of memory, with the names of the types that were found
there. An image serves a read from a single segment, and so refuses one that runs across a border.
-/

namespace HeapInspector

structure Segment where
  base : Nat
  data : Bytes
  deriving DecidableEq, Repr

namespace Segment

/-- The address behind the last byte. -/
def stop (segment : Segment) : Nat := segment.base + segment.data.length

/-- Whether one of the two ends before the other starts. An empty segment that starts inside another
one is not apart from it. -/
def isApart (first second : Segment) : Bool :=
  first.stop ≤ second.base || second.stop ≤ first.base

def covers (segment : Segment) (request : Request) : Bool :=
  segment.base ≤ request.address && request.address + request.size ≤ segment.stop

def slice (segment : Segment) (request : Request) : Bytes :=
  (segment.data.drop (request.address - segment.base)).take request.size

end Segment

structure MemoryImage where
  arch : Architecture
  segments : List Segment
  types : TypeTable
  deriving DecidableEq, Repr

namespace MemoryImage

def empty (arch : Architecture) : MemoryImage := ⟨arch, [], .empty⟩

/-- Maps data at an address. Segments must lie apart from each other. -/
def addSegment (image : MemoryImage) (base : Nat) (data : Bytes) : Except Defect MemoryImage :=
  let segment : Segment := ⟨base, data⟩
  if image.segments.all segment.isApart then
    .ok { image with segments := image.segments ++ [segment] }
  else .error (.overlappingSegment base)

def nameType (image : MemoryImage) (address : Nat) (name : String) : MemoryImage :=
  { image with types := image.types.insert address name }

/-- The bytes of a range, from the first segment that holds all of it. -/
def find? (image : MemoryImage) (request : Request) : Option Bytes :=
  if request.address + request.size < machineBound then
    (image.segments.find? (·.covers request)).map (·.slice request)
  else none

def respond (image : MemoryImage) (request : Request) : Response :=
  match image.find? request with
  | some bytes => .ok bytes
  | none => .error ⟨request.address, request.size, "address range is not mapped"⟩

def host (image : MemoryImage) : Host := .still image.respond

/-- The byte at an address, if the address is mapped. -/
def byte? (image : MemoryImage) (address : Nat) : Option UInt8 :=
  (image.segments.find? (·.covers ⟨address, 1⟩)).bind fun segment =>
    segment.data[address - segment.base]?

end MemoryImage

end HeapInspector
