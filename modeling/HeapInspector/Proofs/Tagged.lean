import HeapInspector.Tagged
import Mathlib.Data.Int.ModEq

/-! Tagged words. Small integers stay far within a machine word of the inspector, what is encoded is
decoded again, and only the residue of a word at the width decides what it holds. -/
namespace HeapInspector

namespace Width

theorem modulus_eq (width : Width) : width.modulus = 2 ^ width.bits := by cases width <;> rfl

theorem smallIntMin_eq (width : Width) : width.smallIntMin = -2 ^ (width.bits - 2) := by
  cases width <;> rfl

theorem smallIntMax_eq (width : Width) : width.smallIntMax = 2 ^ (width.bits - 2) - 1 := by
  cases width <;> rfl

/-- The signed reading of a word is that of its bits in two's complement. -/
theorem toSigned_eq_toInt (width : Width) (word : Nat) :
    width.toSigned word = (BitVec.ofNat width.bits word).toInt := by
  rw [toSigned, modulus_eq]
  exact (BitVec.toInt_ofNat word).symm

end Width

/-- Every word holds a small integer of the width, once its tag is taken away. -/
theorem decodeSmallInt_bounds (width : Width) (word : Nat) :
    width.smallIntMin ≤ decodeSmallInt width word ∧
      decodeSmallInt width word ≤ width.smallIntMax := by
  have hFits := Nat.mod_lt word width.modulus_pos
  unfold decodeSmallInt
  dsimp only
  generalize word % width.modulus = raw at hFits
  split <;> cases width <;>
    simp only [Width.smallIntMin, Width.smallIntMax, Width.modulus, Width.bits] at * <;> omega

/-- The tag is shifted out, and the sign stays. -/
theorem decodeSmallInt_eq_toSigned (width : Width) (word : Nat) :
    decodeSmallInt width word = width.toSigned word / 2 := by
  have hFits := Nat.mod_lt word width.modulus_pos
  rw [Width.toSigned, Int.bmod_def, ← Int.natCast_emod]
  unfold decodeSmallInt
  dsimp only
  generalize word % width.modulus = raw at hFits
  split <;> split <;> cases width <;>
    simp only [Width.modulus, Width.bits, Nat.reduceShiftLeft] at * <;> omega

theorem decodeSmallInt_fits (width : Width) (word : Nat) :
    -(signedBound : Int) ≤ decodeSmallInt width word ∧
      decodeSmallInt width word < signedBound := by
  have hBounds := decodeSmallInt_bounds width word
  cases width <;>
    simp only [Width.smallIntMin, Width.smallIntMax, Width.bits, signedBound] at * <;> omega

/-- The magnitude that is cast and negated on the way fits with a bit to spare. -/
theorem two_mul_natAbs_decodeSmallInt_le (width : Width) (word : Nat) :
    2 * (decodeSmallInt width word).natAbs ≤ signedBound := by
  have hBounds := decodeSmallInt_bounds width word
  cases width <;>
    simp only [Width.smallIntMin, Width.smallIntMax, Width.bits, signedBound] at * <;> omega

/-- An encoded small integer is a word of the width with the tag set, and holds the integer. -/
theorem decodeSmallInt_of_encode {width : Width} {value : Int} {word : Nat}
    (h : encodeSmallInt? width value = some word) :
    decodeSmallInt width word = value ∧ word % 2 = 1 ∧ word < width.modulus := by
  unfold encodeSmallInt? at h
  split at h
  · rename_i hRange
    cases h
    unfold decodeSmallInt
    dsimp only
    split <;> cases width <;>
      simp only [Width.smallIntMin, Width.smallIntMax, Width.modulus, Width.bits,
        Nat.reduceShiftLeft] at * <;> omega
  · cases h

/-- A small integer that fits is encoded above the tag. -/
theorem exists_encode_iff (width : Width) (value : Int) :
    (∃ word, encodeSmallInt? width value = some word) ↔
      -2 ^ (width.bits - 2) ≤ value ∧ value < 2 ^ (width.bits - 2) := by
  have hRange : -2 ^ (width.bits - 2) ≤ value ∧ value < 2 ^ (width.bits - 2) ↔
      width.smallIntMin ≤ value ∧ value ≤ width.smallIntMax := by
    rw [width.smallIntMin_eq, width.smallIntMax_eq, Int.le_sub_one_iff]
  rw [hRange, encodeSmallInt?]
  split
  · rename_i hFits
    exact iff_of_true ⟨_, rfl⟩ hFits
  · rename_i hUnfit
    exact iff_of_false (fun ⟨_, hNone⟩ => by cases hNone) hUnfit

/-- A word with a tag is the only one for the small integer that it holds. -/
theorem encode_decodeSmallInt {width : Width} {word : Nat} (hOdd : word % width.modulus % 2 = 1) :
    encodeSmallInt? width (decodeSmallInt width word) = some (word % width.modulus) := by
  have hFits := Nat.mod_lt word width.modulus_pos
  rw [encodeSmallInt?, if_pos (decodeSmallInt_bounds width word)]
  unfold decodeSmallInt
  dsimp only
  generalize word % width.modulus = raw at hFits hOdd
  split <;> cases width <;>
    simp only [Width.modulus, Width.bits, Nat.reduceShiftLeft] at * <;> congr 1 <;> omega

namespace Tagged

@[simp] theorem classify_mod (width : Width) (word : Nat) :
    classify width (word % width.modulus) = classify width word := by
  simp only [classify, Nat.mod_mod]

/-- The small integer that a word is classified as is the one in its bits. -/
theorem eq_decodeSmallInt_of_classify {width : Width} {word : Nat} {value : Int}
    (h : classify width word = .smallInt value) : decodeSmallInt width word = value := by
  have hResidue : decodeSmallInt width (word % width.modulus) = decodeSmallInt width word := by
    simp only [decodeSmallInt, Nat.mod_mod]
  simp only [classify] at h
  split at h
  · cases h
  · split at h
    · rw [← hResidue]
      exact Tagged.smallInt.inj h
    · cases h

theorem classify_of_odd {width : Width} {word : Nat} (hOdd : word % 2 = 1)
    (hFits : word < width.modulus) : classify width word = .smallInt (decodeSmallInt width word) := by
  have hNonzero : word ≠ 0 := by omega
  simp [classify, Nat.mod_eq_of_lt hFits, hNonzero, hOdd]

theorem classify_of_even {width : Width} {word : Nat} (hEven : word % 2 = 0) (hNonzero : word ≠ 0)
    (hFits : word < width.modulus) : classify width word = .reference word := by
  simp [classify, Nat.mod_eq_of_lt hFits, hNonzero, hEven]

theorem classify_eq_null_iff {width : Width} {word : Nat} :
    classify width word = .null ↔ word % width.modulus = 0 := by
  constructor
  · intro h
    simp only [classify] at h
    split at h
    · assumption
    · split at h <;> cases h
  · intro hZero
    simp [classify, hZero]

theorem classify_eq_smallInt_iff {width : Width} {word : Nat} {value : Int} :
    classify width word = .smallInt value ↔
      word % width.modulus % 2 = 1 ∧ value = decodeSmallInt width word := by
  constructor
  · intro h
    refine ⟨?_, (eq_decodeSmallInt_of_classify h).symm⟩
    simp only [classify] at h
    split at h
    · cases h
    · split at h
      · assumption
      · cases h
  · rintro ⟨hOdd, rfl⟩
    have hFits := Nat.mod_lt word width.modulus_pos
    rw [← classify_mod, classify_of_odd hOdd hFits]
    simp only [decodeSmallInt, Nat.mod_mod]

theorem classify_eq_reference_iff {width : Width} {word address : Nat} :
    classify width word = .reference address ↔
      word % width.modulus ≠ 0 ∧ word % width.modulus % 2 = 0 ∧ address = word % width.modulus := by
  constructor
  · intro h
    simp only [classify] at h
    split at h
    · cases h
    · split at h
      · cases h
      · cases h
        exact ⟨‹_›, by omega, rfl⟩
  · rintro ⟨hNonzero, hEven, rfl⟩
    rw [← classify_mod, classify_of_even hEven hNonzero (Nat.mod_lt _ width.modulus_pos)]

end Tagged

end HeapInspector
