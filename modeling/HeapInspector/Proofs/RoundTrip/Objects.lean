import HeapInspector.Description
import HeapInspector.Proofs.Image.Placement

/-! Objects that were laid out, as they are described. Writing and reading are separate, and they meet
at the bytes that a host serves: a builder makes an image serve them, and every reader is shown to come
back with what was written from nothing else. -/
namespace HeapInspector

open Inquiry

variable {host : Host}

theorem GcState.bits_lt (state : GcState) : state.bits < 4 := by cases state <;> decide

/-- The two low bits of an aligned address are free for the state of the collector. -/
theorem or_bits_of_aligned {address : Nat} (hAligned : address % 4 = 0) (state : GcState) :
    address ||| state.bits = address + state.bits := by
  have hAddress : address = 2 ^ 2 * (address / 4) := by omega
  rw [hAddress]
  exact (Nat.two_pow_add_eq_or_of_lt state.bits_lt (address / 4)).symm

/-- An aligned address of a descriptor is read from the header as it was written. -/
theorem ObjectHeader.typeAddress_ofWords {width : Width} {header : ObjectHeader} (second : Nat)
    (hAligned : header.typeAddress % 4 = 0) (hFits : header.typeAddress < width.modulus) :
    (ofWords (header.toWords.1 % width.modulus) second).typeAddress = header.typeAddress := by
  have hState := header.gcState.bits_lt
  have hWord : header.toWords.1 = header.typeAddress + header.gcState.bits :=
    or_bits_of_aligned hAligned header.gcState
  have hModulus : width.modulus % 4 = 0 := by cases width <;> rfl
  rw [hWord, Nat.mod_eq_of_lt (by omega)]
  change (header.typeAddress + header.gcState.bits) / 4 * 4 = header.typeAddress
  omega

/-- A word of the width can reference an object of the size at the address, and all of the object can
be read: it ends within the memory of the target, and within what a machine word can hold. -/
structure Architecture.Accommodates (arch : Architecture) (address size : Nat) : Prop where
  aligned : address % arch.wordSize = 0
  within : address + size ≤ arch.width.modulus
  reachable : address + size < machineBound

namespace Architecture.Accommodates

variable {arch : Architecture} {address size : Nat}

/-- It is enough that the object ends below the last address of the width. -/
theorem of_lt (hAligned : address % arch.wordSize = 0)
    (hEnd : address + size < arch.width.modulus) : arch.Accommodates address size :=
  ⟨hAligned, Nat.le_of_lt hEnd, Nat.lt_of_lt_of_le hEnd arch.modulus_le_machineBound⟩

theorem mod_four (h : arch.Accommodates address size) : address % 4 = 0 :=
  Nat.mod_eq_zero_of_dvd (arch.four_dvd_wordSize.trans (Nat.dvd_of_mod_eq_zero h.aligned))

theorem lt_modulus (h : arch.Accommodates address size) (hSize : 0 < size) :
    address < arch.width.modulus := by
  have hWithin := h.within
  omega

end Architecture.Accommodates

/-- What is said about a payload in the words in front of it is not cut off at any width. -/
theorem Architecture.payload_lt_modulus (arch : Architecture) {size : Nat}
    (hSize : size ≤ maxPayloadSize) : 4 * size + 3 * arch.wordSize < arch.width.modulus := by
  have hWord := arch.wordSize_le
  have hModulus : 2 ^ 32 ≤ arch.width.modulus := by cases arch.width <;> decide
  unfold maxPayloadSize at hSize
  omega

/-- The payload of an object that is served. -/
theorem ObjectRef.serves_body {object : ObjectRef} {plan : ObjectPlan}
    (h : host.Serves object.address (plan.encode object.arch)) :
    object.Serves host object.bodyOffset plan.body := by
  rw [plan.encode_eq] at h
  have hBody := h.right
  have hHeader : (object.arch.encodeWord plan.header.toWords.1 ++
      object.arch.encodeWord plan.header.toWords.2).length = object.bodyOffset := by
    simp [ObjectRef.bodyOffset, Architecture.headerSize, Nat.two_mul]
  rw [hHeader] at hBody
  exact hBody

/-- The object shows the fields of the list when its decoder locates them and they are read. -/
def Decoder.Shows (decoder : Decoder) (host : Host) (object : ObjectRef) (list : List Field) : Prop :=
  ∃ fields, (decoder.fields object).Yields host fields ∧ fields.Show host list

/-- The introspector of an image: names of types are those of the image. -/
def MemoryImage.introspector (image : MemoryImage) (registry : Registry) : Introspector :=
  ⟨image.arch, image.types.nameOf, registry⟩

/-- Over the image, the word is described as an object, and its fields are those of the list. -/
def MemoryImage.Shows (image : MemoryImage) (registry : Registry) (word : Nat) (list : List Field) :
    Prop :=
  ∃ d, ((image.introspector registry).describe word).Yields image.host (.object d) ∧
    d.address = word ∧ d.decoder.Shows image.host d.object list

/-- The type of an object is the one that was written into its header. -/
theorem Introspector.describeObject_yields {i : Introspector} {address : Nat} {plan : ObjectPlan}
    (hServes : host.Serves address (plan.encode i.arch)) (hAddress : address % 4 = 0)
    (hAligned : plan.header.typeAddress % 4 = 0)
    (hFits : plan.header.typeAddress < i.arch.width.modulus) :
    ∃ d : ObjectDescription, (i.describeObject address).Yields host d ∧
      d.object.arch = i.arch ∧ d.address = address ∧
      d.header.typeAddress = plan.header.typeAddress ∧
      d.decoder = i.registry.lookup (i.typeName plan.header.typeAddress) := by
  rw [plan.encode_eq] at hServes
  have hHeader := Architecture.yields_readHeader hServes.left
  have hType := ObjectHeader.typeAddress_ofWords
    (plan.header.toWords.2 % i.arch.width.modulus) hAligned hFits
  unfold describeObject
  rw [if_neg (by omega)]
  refine ⟨_, hHeader.bind (.pure _), rfl, rfl, hType, ?_⟩
  rw [hType]
  cases i.typeName plan.header.typeAddress with
  | none => rfl
  | some name => rfl

/-- An aligned word that is not null references the object at its address. -/
theorem Introspector.describe_yields {i : Introspector} {address : Nat} {d : ObjectDescription}
    (h : (i.describeObject address).Yields host d) (hNonzero : address ≠ 0)
    (hAddress : address % 4 = 0) (hFits : address < i.arch.width.modulus) :
    (i.describe address).Yields host (.object d) := by
  have hClass : Tagged.classify i.arch.width address = .reference address :=
    Tagged.classify_of_even (by omega) hNonzero hFits
  rw [describe, hClass]
  exact h.bind (.pure _)

/-- An object in an image is shown as soon as the decoder for its type shows its payload. -/
theorem MemoryImage.shows_of_serves {image : MemoryImage} {registry : Registry} {address : Nat}
    {plan : ObjectPlan} {list : List Field}
    (hServes : image.host.Serves address (plan.encode image.arch)) (hNonzero : address ≠ 0)
    (hPlace : image.arch.Accommodates address (plan.encode image.arch).length)
    (hAligned : plan.header.typeAddress % 4 = 0)
    (hFits : plan.header.typeAddress < image.arch.width.modulus)
    (hShows : ∀ object : ObjectRef, object.arch = image.arch →
      object.header.typeAddress = plan.header.typeAddress →
      object.Serves image.host object.bodyOffset plan.body →
      (registry.lookup (image.types.nameOf plan.header.typeAddress)).Shows image.host object list) :
    image.Shows registry address list := by
  obtain ⟨d, hObject, hArch, hAddress, hType, hDecoder⟩ :=
    (image.introspector registry).describeObject_yields hServes hPlace.mod_four hAligned hFits
  have hEncoded : 0 < (plan.encode image.arch).length := List.length_pos_iff.mpr (plan.encode_ne_nil _)
  have hBody : d.object.Serves image.host d.object.bodyOffset plan.body := by
    apply ObjectRef.serves_body
    rw [hArch]
    change image.host.Serves d.address _
    rw [hAddress]
    exact hServes
  have hDescribe := Introspector.describe_yields hObject hNonzero hPlace.mod_four
    (hPlace.lt_modulus hEncoded)
  refine ⟨d, hDescribe, hAddress, ?_⟩
  rw [hDecoder]
  exact hShows d.object hArch hType hBody

end HeapInspector
