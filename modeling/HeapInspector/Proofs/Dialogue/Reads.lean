import HeapInspector.Proofs.Conduct.Reads
import HeapInspector.Proofs.Dialogue.Inquiry

/-! Typed reads in view of what was heard. A read adds one exchange, and its value is what the bytes of
that exchange hold, so that later requests can be traced back to stored words. -/
namespace HeapInspector

open Inquiry

/-- The range begins and ends within the bounds. -/
def Request.Within (request : Request) (start stop : Nat) : Prop :=
  start ≤ request.address ∧ request.address + request.size ≤ stop

/-- The range is exactly the one between the bounds. -/
def Request.Spans (request : Request) (start stop : Nat) : Prop :=
  request.address = start ∧ request.address + request.size = stop

/-- What was read, range by range, in words. -/
abbrev Readings := List (Request × List Nat)

/-- The words that the bytes of a response hold. -/
def Exchange.words (arch : Architecture) (exchange : Exchange) : List Nat :=
  match exchange.response with
  | .error _ => []
  | .ok bytes => (pieces arch.wordSize bytes).map arch.order.decode

namespace Architecture

def readings (arch : Architecture) (heard : List Exchange) : Readings :=
  heard.map fun exchange => (exchange.request, exchange.words arch)

@[simp] theorem readings_nil (arch : Architecture) : arch.readings [] = [] := rfl

@[simp] theorem readings_append (arch : Architecture) (first second : List Exchange) :
    arch.readings (first ++ second) = arch.readings first ++ arch.readings second :=
  List.map_append

end Architecture

variable {agenda : List Exchange → Request → Prop} {heard : List Exchange} {arch : Architecture}
  {address size count : Nat}

namespace Inquiry

variable {α : Type}

/-- An inquiry that asks for nothing adds nothing to what was heard. -/
theorem Follows.of_silent {conduct : Conduct} {post : α → Prop} {i : Inquiry α}
    (h : i.Meets conduct post 0) :
    i.Follows agenda (fun now value => now = heard ∧ post value) heard := by
  cases h with
  | done hPost => exact .done ⟨rfl, hPost⟩
  | error _ => exact .fail

theorem follows_natural {value : Nat} :
    (natural value).Follows agenda (fun now found => now = heard ∧ found = value) heard := by
  unfold natural
  split
  · exact .done ⟨rfl, rfl⟩
  · exact .fail

theorem follows_integer {value : Int} :
    (integer value).Follows agenda (fun now found => now = heard ∧ found = value) heard := by
  unfold integer
  split
  · exact .done ⟨rfl, rfl⟩
  · exact .fail

theorem follows_bytes (hAsk : agenda heard ⟨address, size⟩) :
    (bytes address size).Follows agenda
      (fun now data => now = heard ++ [⟨⟨address, size⟩, .ok data⟩] ∧ data.length = size) heard := by
  unfold bytes
  split
  · refine .read hAsk ?_ ?_
    · intro response fault hFault
      cases response with
      | error found =>
          obtain rfl := Option.some.inj hFault
          rfl
      | ok data =>
          simp only [Exchange.fault?] at hFault ⊢
          split at hFault
          · cases hFault
          · obtain rfl := Option.some.inj hFault
            rw [if_neg ‹_›]
            rfl
    · intro data hLength
      dsimp only
      rw [if_pos hLength]
      exact .done ⟨rfl, hLength⟩
  · exact .fail

end Inquiry

namespace Architecture

theorem follows_decodeUnsigned {bytes : Bytes} :
    (arch.decodeUnsigned bytes).Follows agenda
      (fun now value => now = heard ∧ value = arch.order.decode bytes) heard := by
  unfold decodeUnsigned
  split
  · exact .done ⟨rfl, rfl⟩
  · exact .fail

theorem follows_readWords (hAsk : agenda heard ⟨address, count * arch.wordSize⟩) :
    (arch.readWords address count).Follows agenda
      (fun now words => words.length = count ∧
        arch.readings now = arch.readings heard ++ [(⟨address, count * arch.wordSize⟩, words)])
      heard := by
  unfold readWords
  apply follows_natural.bind
  rintro heard size ⟨rfl, rfl⟩
  rw [Nat.mul_comm arch.wordSize count]
  apply (follows_bytes hAsk).bind
  rintro _ data ⟨rfl, hLength⟩
  apply (Follows.forEach_silent fun _ _ => follows_decodeUnsigned).imp
  rintro _ words ⟨rfl, rfl⟩
  constructor
  · rw [List.length_map, pieces_length, hLength, Nat.mul_div_cancel _ arch.wordSize_pos]
  · simp [readings, Exchange.words]

/-- A word is read as the only one of its range. -/
theorem follows_readWord (hAsk : agenda heard ⟨address, arch.wordSize⟩) :
    (arch.readWord address).Follows agenda
      (fun now word => arch.readings now =
        arch.readings heard ++ [(⟨address, arch.wordSize⟩, [word])]) heard := by
  unfold readWord
  apply (follows_bytes hAsk).bind
  rintro _ data ⟨rfl, hLength⟩
  apply follows_decodeUnsigned.imp
  rintro _ word ⟨rfl, rfl⟩
  have hPieces : pieces arch.wordSize data = [data] := by
    simpa [pieces, pieces.go] using pieces_append [] hLength arch.wordSize_pos
  simp [readings, Exchange.words, hPieces]

theorem follows_readFloatBits (hAsk : agenda heard ⟨address, 8⟩) :
    (arch.readFloatBits address).Follows agenda (fun _ _ => True) heard := by
  unfold readFloatBits
  apply (follows_bytes hAsk).bind
  rintro _ data ⟨rfl, hLength⟩
  rw [if_pos hLength]
  exact .pure trivial

theorem follows_readHeader (hAsk : agenda heard ⟨address, arch.headerSize⟩) :
    (arch.readHeader address).Follows agenda (fun _ _ => True) heard := by
  unfold readHeader
  apply (follows_readWords hAsk).bind
  rintro now words ⟨hLength, _⟩
  match words, hLength with
  | [first, second], _ => exact .pure trivial

theorem follows_offsetAddress {base offset : Nat} :
    (offsetAddress base offset size).Follows agenda
      (fun now found => now = heard ∧ found = base + offset) heard := by
  unfold offsetAddress
  split
  · exact .done ⟨rfl, rfl⟩
  · exact .fail

end Architecture

namespace ObjectRef

variable {object : ObjectRef} {offset index : Nat}

/-- The address of the first byte behind the header. -/
def body (object : ObjectRef) : Nat := object.address + object.bodyOffset

theorem follows_bodyWordOffset :
    (object.bodyWordOffset index).Follows agenda
      (fun now found => now = heard ∧ found = object.bodyOffset + index * object.wordSize) heard :=
  follows_natural

theorem follows_readWord (hAsk : agenda heard ⟨object.address + offset, object.wordSize⟩) :
    (object.readWord offset).Follows agenda
      (fun now word => object.arch.readings now = object.arch.readings heard ++
        [(⟨object.address + offset, object.wordSize⟩, [word])]) heard := by
  unfold readWord addressAt
  apply Architecture.follows_offsetAddress.bind
  rintro _ address ⟨rfl, rfl⟩
  exact Architecture.follows_readWord hAsk

theorem follows_readWords
    (hAsk : agenda heard ⟨object.address + offset, count * object.wordSize⟩) :
    (object.readWords offset count).Follows agenda
      (fun now words => words.length = count ∧
        object.arch.readings now = object.arch.readings heard ++
          [(⟨object.address + offset, count * object.wordSize⟩, words)]) heard := by
  unfold readWords addressAt
  apply follows_natural.bind
  rintro _ size ⟨rfl, rfl⟩
  apply Architecture.follows_offsetAddress.bind
  rintro _ address ⟨rfl, rfl⟩
  exact Architecture.follows_readWords hAsk

theorem follows_readBytes (hAsk : agenda heard ⟨object.address + offset, size⟩) :
    (object.readBytes offset size).Follows agenda (fun _ data => data.length = size) heard := by
  unfold readBytes addressAt
  apply Architecture.follows_offsetAddress.bind
  rintro _ address ⟨rfl, rfl⟩
  exact (follows_bytes hAsk).imp fun _ _ h => h.2

/-- A word of the payload, as it is viewed. -/
theorem follows_bodyWord {β : Type} (view : Nat → β)
    (hAsk : agenda heard ⟨object.body + index * object.wordSize, object.wordSize⟩) :
    (do let word ← object.readWord (← object.bodyWordOffset index)
        return view word : Inquiry β).Follows agenda (fun _ _ => True) heard := by
  rw [body, Nat.add_assoc] at hAsk
  apply follows_bodyWordOffset.bind
  rintro _ offset ⟨rfl, rfl⟩
  apply (follows_readWord hAsk).bind
  intro _ _ _
  exact .pure trivial

end ObjectRef

end HeapInspector
