import HeapInspector.Inquiry

/-!
Memory of other processes. A call to the system copies it, and the target makes a response of what the
call comes to. The call itself is a parameter. Processes that are given by their mapped pages are one
instance of it: if the mapping ends within the range, they copy what there is up to that point.
-/

namespace HeapInspector

/-- What the call comes to. -/
inductive Transfer where
  /-- Nothing was copied. The error has a number and a text. -/
  | failed (code : Nat) (text : String)
  /-- Bytes were copied, from the start of the range on. -/
  | copied (bytes : Bytes)
  deriving DecidableEq, Repr

/-- The number of the error for addresses that cannot be accessed. -/
def Transfer.badAddress : Nat := 14

def Transfer.response (request : Request) : Transfer → Response
  | failed code text =>
      .error ⟨request.address, request.size,
        if code = badAddress then "bad address"
        else "process_vm_readv failed: " ++ text ++ " (os error " ++ Numeral.decimal code ++ ")"⟩
  | copied bytes =>
      if bytes.length = request.size then .ok bytes
      else
        .error ⟨request.address, request.size,
          "unexpected end of mapping after " ++ Numeral.decimal bytes.length ++ " bytes"⟩

/-- The call, as it behaves for one process. It can depend on the requests before, since the process may
go on running. -/
abbrev ProcessReader := List Request → Request → Transfer

/-- Nothing is called for a read of nothing, so that it succeeds anywhere. -/
def ProcessReader.host (reader : ProcessReader) : Host := fun past request =>
  if request.size = 0 then .ok [] else (reader past request).response request

def pageSize : Nat := 4096

/-- The mapped pages of a process, by the addresses that they start at, and what they hold. -/
structure ProcessMemory where
  pages : List Nat
  contents : Nat → UInt8

namespace ProcessMemory

def isMapped (memory : ProcessMemory) (address : Nat) : Bool :=
  memory.pages.any fun page => page ≤ address && address < page + pageSize

/-- How many of the bytes from an address on are mapped, up to the first one that is not. -/
def mappedLength (memory : ProcessMemory) (address : Nat) : Nat → Nat
  | 0 => 0
  | size + 1 =>
      if memory.isMapped address then memory.mappedLength (address + 1) size + 1 else 0

def read (memory : ProcessMemory) (request : Request) : Bytes :=
  (List.range request.size).map fun index => memory.contents (request.address + index)

end ProcessMemory

/-- What there is behind a process number. -/
inductive ProcessState where
  | missing
  /-- A process that does not let others read its memory. -/
  | guarded
  | running (memory : ProcessMemory)

namespace ProcessState

def transfer (process : ProcessState) (request : Request) : Transfer :=
  match process with
  | missing => .failed 3 "No such process"
  | guarded => .failed 1 "Operation not permitted"
  | running memory =>
      let length := memory.mappedLength request.address request.size
      if length = 0 then .failed Transfer.badAddress "Bad address"
      else .copied (memory.read ⟨request.address, length⟩)

def reader (process : ProcessState) : ProcessReader := fun _ => process.transfer

def host (process : ProcessState) : Host := process.reader.host

end ProcessState

end HeapInspector
