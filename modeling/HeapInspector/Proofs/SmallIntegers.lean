import HeapInspector.Proofs.Tagged

/-! Small integers, from the word to the number and back. The numbers are computed in registers: a word
and a value take 64 bits, and the distance of a word from a power of two is taken in 128. What comes out
of the registers is the number that is meant, so none of them is too narrow on the way. -/
namespace HeapInspector

namespace Register

/-- The number of words of the width. At the wide one it takes more than 64 bits. -/
def modulus (width : Width) : BitVec 128 := 1#128 <<< width.bits

/-- The bits of a word that count. -/
def raw (width : Width) (word : BitVec 64) : BitVec 128 :=
  word.setWidth 128 &&& (modulus width - 1#128)

def hasSign (width : Width) (word : BitVec 64) : Bool :=
  raw width word >>> (width.bits - 1) &&& 1#128 == 1#128

/-- The small integer of a word without its sign, before it is cut to 64 bits. -/
def magnitude (width : Width) (word : BitVec 64) : BitVec 128 :=
  if hasSign width word then (modulus width - (raw width word &&& (modulus width - 2#128))) >>> 1
  else raw width word >>> 1

/-- The small integer of a word. -/
def decode (width : Width) (word : BitVec 64) : BitVec 64 :=
  let kept := (magnitude width word).setWidth 64
  if hasSign width word then -kept else kept

def greatest (width : Width) : BitVec 64 := (1#64 <<< (width.bits - 1 - 1)) - 1#64

def least (width : Width) : BitVec 64 := -greatest width - 1#64

/-- A value above the tag. What a shift moves out of the register is lost, and so is what is above the
width. -/
def tag (width : Width) (value : BitVec 64) : BitVec 64 :=
  (value <<< 1 ||| 1#64) &&& BitVec.ofNat 64 width.mask

/-- The word of a small integer, if there is one. -/
def encode? (width : Width) (value : BitVec 64) : Option (BitVec 64) :=
  if (least width).sle value && value.sle (greatest width) then some (tag width value) else none

theorem toNat_modulus (width : Width) : (modulus width).toNat = width.modulus := by
  cases width <;> rfl

theorem toNat_raw (width : Width) (word : BitVec 64) :
    (raw width word).toNat = word.toNat % width.modulus := by
  have hOnes : (modulus width - 1#128).toNat = 2 ^ width.bits - 1 := by cases width <;> rfl
  rw [raw, BitVec.toNat_and, hOnes, Nat.and_two_pow_sub_one_eq_mod,
    BitVec.toNat_setWidth_of_le (by decide), width.modulus_eq]

theorem hasSign_iff (width : Width) (word : BitVec 64) :
    hasSign width word = true ↔ width.modulus / 2 ≤ word.toNat % width.modulus := by
  have hFits := Nat.mod_lt word.toNat width.modulus_pos
  rw [← toNat_raw] at hFits ⊢
  have hBit : (raw width word >>> (width.bits - 1) &&& 1#128).toNat =
      (raw width word).toNat / 2 ^ (width.bits - 1) % 2 := by
    rw [BitVec.toNat_and, BitVec.toNat_ushiftRight, Nat.shiftRight_eq_div_pow]
    exact Nat.and_one_is_mod _
  rw [hasSign, beq_iff_eq, ← BitVec.toNat_inj, hBit, BitVec.toNat_ofNat]
  cases width <;> simp only [Width.bits, Width.modulus, Nat.reduceShiftLeft] at * <;> omega

/-- A number without its lowest bit. -/
theorem and_even_ones {bits number : Nat} (h : number < 2 ^ (bits + 1)) :
    number &&& (2 ^ (bits + 1) - 2) = number - number % 2 := by
  have hHalf : (number &&& (2 ^ (bits + 1) - 2)) / 2 = number / 2 := by
    have hOnes : (2 ^ (bits + 1) - 2) / 2 = 2 ^ bits - 1 := by omega
    rw [Nat.and_div_two, hOnes, Nat.and_two_pow_sub_one_eq_mod, Nat.mod_eq_of_lt (by omega)]
  have hEven : (number &&& (2 ^ (bits + 1) - 2)) % 2 ≠ 1 := by
    rw [ne_eq, Nat.and_mod_two_eq_one]
    omega
  omega

theorem toNat_raw_even (width : Width) (word : BitVec 64) :
    (raw width word &&& (modulus width - 2#128)).toNat =
      word.toNat % width.modulus - word.toNat % width.modulus % 2 := by
  have hFits := Nat.mod_lt word.toNat width.modulus_pos
  rw [BitVec.toNat_and, toNat_raw]
  cases width with
  | w32 => exact @and_even_ones 31 _ hFits
  | w64 => exact @and_even_ones 63 _ hFits

theorem decodeSmallInt_eq_magnitude (width : Width) (word : BitVec 64) :
    decodeSmallInt width word.toNat =
      if hasSign width word then -((magnitude width word).toNat : Int)
      else (magnitude width word).toNat := by
  have hFits := Nat.mod_lt word.toNat width.modulus_pos
  unfold magnitude decodeSmallInt
  dsimp only
  by_cases hSign : hasSign width word
  · have hNegative := (hasSign_iff width word).mp hSign
    have hLe : raw width word &&& (modulus width - 2#128) ≤ modulus width := by
      rw [BitVec.le_def, toNat_raw_even, toNat_modulus]
      omega
    rw [if_pos hNegative, if_pos hSign, if_pos hSign, BitVec.toNat_ushiftRight,
      BitVec.toNat_sub_of_le hLe, toNat_raw_even, toNat_modulus, Nat.shiftRight_eq_div_pow]
  · have hPositive := mt (hasSign_iff width word).mpr hSign
    rw [if_neg hPositive, if_neg hSign, if_neg hSign, BitVec.toNat_ushiftRight, toNat_raw,
      Nat.shiftRight_eq_div_pow]

/-- What is cut to 64 bits has a bit to spare for the sign, and another one. -/
theorem two_mul_toNat_magnitude_le (width : Width) (word : BitVec 64) :
    2 * (magnitude width word).toNat ≤ signedBound := by
  have hBound := two_mul_natAbs_decodeSmallInt_le width word.toNat
  have hMagnitude := decodeSmallInt_eq_magnitude width word
  split at hMagnitude <;> omega

theorem toInt_decode (width : Width) (word : BitVec 64) :
    (decode width word).toInt = decodeSmallInt width word.toNat := by
  have hBound := two_mul_toNat_magnitude_le width word
  unfold signedBound at hBound
  have hKept : ((magnitude width word).setWidth 64).toNat = (magnitude width word).toNat := by
    rw [BitVec.toNat_setWidth, Nat.mod_eq_of_lt (by omega)]
  have hInt : ((magnitude width word).setWidth 64).toInt = (magnitude width word).toNat := by
    rw [BitVec.toInt_eq_toNat_of_lt (by omega), hKept]
  rw [decode, decodeSmallInt_eq_magnitude]
  split
  · rw [BitVec.toInt_neg, hInt]
    exact Int.bmod_eq_of_le (by omega) (by omega)
  · exact hInt

theorem toInt_greatest (width : Width) : (greatest width).toInt = width.smallIntMax := by
  cases width <;> rfl

theorem toInt_least (width : Width) : (least width).toInt = width.smallIntMin := by
  cases width <;> rfl

theorem toNat_tag (width : Width) (value : BitVec 64) :
    (tag width value).toNat = ((2 * value.toInt + 1) % width.modulus).toNat := by
  have hMask : (BitVec.ofNat 64 width.mask).toNat = 2 ^ width.bits - 1 := by cases width <;> rfl
  -- The tag takes the place that the shift leaves free, so that adding it is the same.
  have hOr : value <<< 1 + 1#64 = value <<< 1 ||| 1#64 :=
    BitVec.shiftLeft_add_eq_shiftLeft_or (x := 1#64) (y := value)
  have hTagged : (value <<< 1 ||| 1#64).toNat = (2 * value.toNat + 1) % 2 ^ 64 := by
    rw [← hOr, BitVec.toNat_add, BitVec.toNat_shiftLeft, Nat.shiftLeft_eq, BitVec.toNat_ofNat]
    omega
  have hSigned := BitVec.toInt_eq_toNat_cond value
  rw [tag, BitVec.toNat_and, hMask, Nat.and_two_pow_sub_one_eq_mod, hTagged]
  cases width <;> simp only [Width.bits, Width.modulus, Nat.reduceShiftLeft] <;> omega

theorem map_toNat_encode? (width : Width) (value : BitVec 64) :
    (encode? width value).map BitVec.toNat = encodeSmallInt? width value.toInt := by
  unfold encode? encodeSmallInt?
  simp only [Bool.and_eq_true, BitVec.sle_iff_toInt_le, toInt_least, toInt_greatest]
  split
  · rw [Option.map_some, toNat_tag]
  · rfl

end Register

/-- What a word holds, and how small integers get into it. Only the residue of a word at the width counts:
it is null if it is zero, a small integer if it is odd, and otherwise an address. The small integer is the
two's complement reading of the residue, shifted right by one with its sign. Every odd residue is what
its small integer is encoded as. The numbers that are encoded are those that fit one bit less than a word
has; the word for one of them is odd and holds it. The registers of the inspector are wide enough for both
directions. -/
theorem small_integers_fill_odd_words (width : Width) :
    (∀ word,
      (Tagged.classify width word = .null ↔ word % width.modulus = 0) ∧
      (∀ value, Tagged.classify width word = .smallInt value ↔
        word % width.modulus % 2 = 1 ∧ value = decodeSmallInt width word) ∧
      (∀ address, Tagged.classify width word = .reference address ↔
        word % width.modulus ≠ 0 ∧ word % width.modulus % 2 = 0 ∧ address = word % width.modulus) ∧
      width.toSigned word = (BitVec.ofNat width.bits word).toInt ∧
      decodeSmallInt width word = (BitVec.ofNat width.bits word).toInt / 2 ∧
      decodeSmallInt width word = ((BitVec.ofNat width.bits word).sshiftRight 1).toInt ∧
      (word % width.modulus % 2 = 1 →
        encodeSmallInt? width (decodeSmallInt width word) = some (word % width.modulus))) ∧
    (∀ value,
      ((∃ word, encodeSmallInt? width value = some word) ↔
        -2 ^ (width.bits - 2) ≤ value ∧ value < 2 ^ (width.bits - 2)) ∧
      ∀ word, encodeSmallInt? width value = some word →
        word % 2 = 1 ∧ word < 2 ^ width.bits ∧ Tagged.classify width word = .smallInt value) ∧
    (∀ word, (Register.magnitude width word).toNat < signedBound ∧
      (Register.decode width word).toInt = decodeSmallInt width word.toNat) ∧
    ∀ value, (Register.encode? width value).map BitVec.toNat = encodeSmallInt? width value.toInt := by
  refine ⟨?_, ?_, ?_, Register.map_toNat_encode? width⟩
  · intro word
    have hSigned := width.toSigned_eq_toInt word
    have hHalf := decodeSmallInt_eq_toSigned width word
    rw [hSigned] at hHalf
    have hShifted : ((BitVec.ofNat width.bits word).sshiftRight 1).toInt =
        (BitVec.ofNat width.bits word).toInt / 2 := by
      rw [BitVec.toInt_sshiftRight, Int.shiftRight_eq_div_pow]
      rfl
    exact ⟨Tagged.classify_eq_null_iff, fun _ => Tagged.classify_eq_smallInt_iff,
      fun _ => Tagged.classify_eq_reference_iff, hSigned, hHalf, hHalf.trans hShifted.symm,
      encode_decodeSmallInt⟩
  · intro value
    refine ⟨exists_encode_iff width value, ?_⟩
    intro word hWord
    obtain ⟨hValue, hOdd, hFits⟩ := decodeSmallInt_of_encode hWord
    refine ⟨hOdd, width.modulus_eq ▸ hFits, ?_⟩
    rw [Tagged.classify_of_odd hOdd hFits, hValue]
  · intro word
    have hBound := Register.two_mul_toNat_magnitude_le width word
    have hPositive : 0 < signedBound := by decide
    exact ⟨by omega, Register.toInt_decode width word⟩

/-- The least small integer of the narrow width, with bits above the width that do not count. -/
theorem small_integers_fill_odd_words_least :
    0xdeadbeef80000001 % Width.modulus .w32 % 2 = 1 ∧
    encodeSmallInt? .w32 (decodeSmallInt .w32 0xdeadbeef80000001) = some 0x80000001 ∧
    encodeSmallInt? .w32 (-0x40000000) = some 0x80000001 ∧
    Tagged.classify .w32 0x80000001 = .smallInt (-0x40000000) ∧
    (Register.decode .w32 0xdeadbeef80000001#64).toInt = -0x40000000 := by
  obtain ⟨hWords, hValues, hDecoded, _⟩ := small_integers_fill_odd_words .w32
  have hOdd : 0xdeadbeef80000001 % Width.modulus .w32 % 2 = 1 := by decide
  have hEncoded : encodeSmallInt? .w32 (-0x40000000) = some 0x80000001 := by decide
  obtain ⟨_, _, _, _, _, _, hBack⟩ := hWords 0xdeadbeef80000001
  obtain ⟨_, _, hHolds⟩ := (hValues (-0x40000000)).2 _ hEncoded
  obtain ⟨_, hRegister⟩ := hDecoded 0xdeadbeef80000001#64
  have hLeast : decodeSmallInt .w32 0xdeadbeef80000001 = -0x40000000 := by decide
  exact ⟨hOdd, hBack hOdd, hEncoded, hHolds, hRegister.trans hLeast⟩

end HeapInspector
