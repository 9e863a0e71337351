import HeapInspector.Failure
import HeapInspector.Proofs.Utf8
import HeapInspector.Proofs.Words
import Mathlib.Data.List.TakeWhile

/-! The texts that bytes stand for. Bytes are either a text in UTF-8 or a row of elements, each of them the
code point of one character. Bytes that stand for no text have one thing wrong with them, which is all
that is ever said about them. -/
namespace HeapInspector

variable {size code : Nat} {codes : List Nat} {characters : List Char} {text : String}
  {kind : Inconsistency}

namespace Utf8

variable {data front : Bytes}

/-- The text that the bytes encode. -/
def textOf (data : Bytes) : Except Inconsistency String :=
  match decode data with
  | some text => .ok text
  | none => .error .invalidUtf8

/-- The text in front of the first zero. -/
def textBeforeZero (data : Bytes) : Except Inconsistency String := textOf (data.takeWhile (· ≠ 0))

theorem textOf_eq_ok_iff : textOf data = .ok text ↔ encode text = data := by
  rw [← decode_eq_some_iff, textOf]
  cases decode data <;> simp

theorem textOf_eq_error_iff :
    textOf data = .error kind ↔ kind = .invalidUtf8 ∧ ∀ text, encode text ≠ data := by
  simp only [ne_eq, ← decode_eq_some_iff, textOf]
  cases decode data <;> simp [eq_comm]

section NoZero

variable (h : 0 ∉ front)

include h

theorem takeWhile_eq_of_not_mem : front.takeWhile (· ≠ 0) = front := by
  rw [List.takeWhile_eq_self_iff]
  intro byte hMem
  exact decide_eq_true fun hZero => h (hZero ▸ hMem)

/-- Without a zero all of the bytes count. -/
theorem textBeforeZero_eq : textBeforeZero front = textOf front := by
  rw [textBeforeZero, takeWhile_eq_of_not_mem h]

/-- With a zero nothing behind it counts. -/
theorem textBeforeZero_append (rest : Bytes) :
    textBeforeZero (front ++ 0 :: rest) = textOf front := by
  have hFront := takeWhile_eq_of_not_mem h
  rw [textBeforeZero, List.takeWhile_append, hFront, if_pos rfl, List.takeWhile_cons_of_neg (by decide),
    List.append_nil]

end NoZero

end Utf8

namespace CodePoint

/-- Surrogates and numbers beyond the last plane are the code points of no character. -/
def IsForeign (code : Nat) : Prop := 0xd800 ≤ code ∧ code ≤ 0xdfff ∨ 0x10ffff < code

instance (code : Nat) : Decidable (IsForeign code) :=
  inferInstanceAs (Decidable (0xd800 ≤ code ∧ code ≤ 0xdfff ∨ 0x10ffff < code))

/-- The characters, one for each number. The first number that belongs to no character is what is wrong
with a row that has one. -/
def charactersOf (codes : List Nat) : Except Inconsistency (List Char) :=
  match codes.find? (IsForeign ·) with
  | some code => .error (.invalidCodePoint code)
  | none => .ok (codes.map Char.ofNat)

/-- The text of the characters. -/
def textOf (codes : List Nat) : Except Inconsistency String := (charactersOf codes).map String.ofList

theorem isForeign_iff : IsForeign code ↔ ¬ code.isValidChar := by
  unfold IsForeign Nat.isValidChar
  omega

theorem toNat_ofNat (h : ¬ IsForeign code) : (Char.ofNat code).toNat = code := by
  have hValid : code.isValidChar := not_not.mp (mt isForeign_iff.mpr h)
  rw [Char.ofNat, dif_pos hValid]
  rfl

theorem not_isForeign_toNat (c : Char) : ¬ IsForeign c.toNat := fun h => isForeign_iff.mp h c.valid

theorem charactersOf_cons_of_foreign (h : IsForeign code) :
    charactersOf (code :: codes) = .error (.invalidCodePoint code) := by
  rw [charactersOf, List.find?_cons_of_pos (by simpa using h)]

theorem charactersOf_cons (h : ¬ IsForeign code) :
    charactersOf (code :: codes) = (charactersOf codes).map (Char.ofNat code :: ·) := by
  rw [charactersOf, charactersOf, List.find?_cons_of_neg (by simpa using h)]
  cases codes.find? (IsForeign ·) <;> rfl

/-- A text has the numbers for its code points, all of them, and so as many characters. -/
theorem textOf_eq_ok_iff : textOf codes = .ok text ↔ text.toList.map Char.toNat = codes := by
  constructor
  · intro h
    unfold textOf charactersOf at h
    split at h
    · cases h
    · rename_i hNone
      have hEach : ∀ code ∈ codes, ¬ IsForeign code := by simpa using hNone
      obtain rfl := Except.ok.inj h
      rw [String.toList_ofList, List.map_map]
      exact (List.map_congr_left fun code hMem => toNat_ofNat (hEach code hMem)).trans codes.map_id
  · rintro rfl
    have hNone : (text.toList.map Char.toNat).find? (IsForeign ·) = none := by
      simp [not_isForeign_toNat]
    have hSame : Char.ofNat ∘ Char.toNat = id := funext Char.ofNat_toNat
    rw [textOf, charactersOf, hNone, Except.map, List.map_map, hSame, List.map_id, String.ofList_toList]

/-- Of the numbers that belong to no character it is the first that is reported. -/
theorem textOf_eq_error_iff : textOf codes = .error kind ↔ ∃ front code behind,
    codes = front ++ code :: behind ∧ (∀ before ∈ front, ¬ IsForeign before) ∧ IsForeign code ∧
      kind = .invalidCodePoint code := by
  constructor
  · intro h
    unfold textOf charactersOf at h
    split at h
    · rename_i code hFound
      obtain ⟨hForeign, front, behind, hCodes, hFront⟩ := List.find?_eq_some_iff_append.mp hFound
      exact ⟨front, code, behind, hCodes, by simpa using hFront, of_decide_eq_true hForeign,
        (Except.error.inj h).symm⟩
    · cases h
  · rintro ⟨front, code, behind, rfl, hFront, hForeign, rfl⟩
    have hFound : (front ++ code :: behind).find? (IsForeign ·) = some code :=
      List.find?_eq_some_iff_append.mpr
        ⟨decide_eq_true hForeign, front, behind, rfl, by simpa using hFront⟩
    rw [textOf, charactersOf, hFound, Except.map]

end CodePoint

namespace ByteOrder

variable (order : ByteOrder)

/-- The numbers in a row of elements. -/
def elements (size : Nat) (data : Bytes) : List Nat := (pieces size data).map order.decode

/-- The elements of the characters, one after another. -/
def encodeCharacters (size : Nat) (characters : List Char) : Bytes :=
  characters.flatMap fun c => order.encode size c.toNat

/-- The text of a string. Elements of one byte are UTF-8, and wider ones hold one character each. -/
def textOf (size : Nat) (data : Bytes) : Except Inconsistency String :=
  if size = 1 then Utf8.textOf data else CodePoint.textOf (order.elements size data)

theorem elements_length (data : Bytes) : (order.elements size data).length = data.length / size := by
  rw [elements, List.length_map, pieces_length]

variable {order}

/-- Characters that fit into their elements are the elements. -/
theorem elements_encodeCharacters (hSize : 0 < size)
    (hFits : ∀ c ∈ characters, c.toNat < 256 ^ size) :
    order.elements size (order.encodeCharacters size characters) = characters.map Char.toNat := by
  have hLength (c : Char) : (order.encode size c.toNat).length = size := order.encode_length size c.toNat
  rw [elements, encodeCharacters, pieces_flatMap hSize hLength, List.map_map]
  apply List.map_congr_left
  intro c hMem
  rw [Function.comp_apply, decode_encode, Nat.mod_eq_of_lt (hFits c hMem)]

theorem textOf_encodeCharacters (hSize : 1 < size)
    (hFits : ∀ c ∈ characters, c.toNat < 256 ^ size) :
    order.textOf size (order.encodeCharacters size characters) = .ok (String.ofList characters) := by
  rw [textOf, if_neg (by omega), elements_encodeCharacters (by omega) hFits,
    CodePoint.textOf_eq_ok_iff, String.toList_ofList]

end ByteOrder

end HeapInspector
