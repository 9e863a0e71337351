import HeapInspector.Proofs.RoundTrip.BuiltIn

/-! Unsigned integers in bytes, of every size up to a register of 64 bits and in both byte orders. What is
written is read as what is left of it at its size, and what is read is written as it was. A row of words
is cut where the words meet. -/
namespace HeapInspector

theorem littleBytes_getElem? {size power : Nat} (value : Nat) (h : power < size) :
    (littleBytes size value)[power]? = some (UInt8.ofNat (value / 256 ^ power)) := by
  induction size generalizing value power with
  | zero => exact absurd h (Nat.not_lt_zero _)
  | succ size ih =>
      cases power with
      | zero => simp [littleBytes]
      | succ power =>
          rw [littleBytes, List.getElem?_cons_succ, ih (value / 256) (Nat.lt_of_succ_lt_succ h),
            Nat.div_div_eq_div_mul, Nat.pow_succ']

/-- A smaller size keeps the low bytes. -/
theorem littleBytes_take {size more : Nat} (value : Nat) (h : size ≤ more) :
    (littleBytes more value).take size = littleBytes size value := by
  induction size generalizing more value with
  | zero => rfl
  | succ size ih =>
      obtain ⟨more, rfl⟩ := Nat.exists_eq_add_of_le' h
      rw [← Nat.add_assoc, littleBytes, List.take_succ_cons, ih (value / 256) (Nat.le_add_left _ _),
        littleBytes]

/-- Zeros above the highest byte add nothing. -/
theorem littleValue_append_zeros (bytes : Bytes) (count : Nat) :
    littleValue (bytes ++ List.replicate count 0) = littleValue bytes := by
  induction bytes with
  | nil =>
      induction count with
      | zero => rfl
      | succ count ih => simpa [List.replicate_succ, littleValue] using ih
  | cons byte rest ih => rw [List.cons_append, littleValue, ih, littleValue]

namespace ByteOrder

/-- Where the byte of weight `256 ^ power` stands among `size` bytes. -/
def place (order : ByteOrder) (size power : Nat) : Nat :=
  match order with
  | little => power
  | big => size - 1 - power

theorem encode_getElem? (order : ByteOrder) {size power : Nat} (value : Nat) (h : power < size) :
    (order.encode size value)[order.place size power]? = some (UInt8.ofNat (value / 256 ^ power)) := by
  cases order with
  | little => exact littleBytes_getElem? value h
  | big =>
      have hPlace : size - 1 - power < (littleBytes size value).length := by
        rw [littleBytes_length]
        omega
      have hPower : (littleBytes size value).length - 1 - (size - 1 - power) = power := by
        rw [littleBytes_length]
        omega
      rw [encode, place, List.getElem?_reverse hPlace, hPower]
      exact littleBytes_getElem? value h

end ByteOrder

namespace Register

/-- The eight bytes of a register, the least significant one first. -/
def bytes (register : BitVec 64) : Bytes :=
  (List.range 8).map fun index => UInt8.ofBitVec (register.extractLsb' (8 * index) 8)

/-- The register that is filled with the bytes, the least significant one first. What does not fit is
shifted out. -/
def ofBytes (bytes : Bytes) : BitVec 64 :=
  bytes.foldr (fun byte high => high <<< 8 ||| byte.toBitVec.setWidth 64) 0#64

/-- The `size` bytes at that end of the register where the low ones are. -/
def write (order : ByteOrder) (size : Nat) (register : BitVec 64) : Bytes :=
  match order with
  | .little => (bytes register).take size
  | .big => (bytes register).reverse.drop (8 - size)

/-- The register of the bytes, with zeros at that end where the high ones are. -/
def read (order : ByteOrder) (bytes : Bytes) : BitVec 64 :=
  match order with
  | .little => ofBytes (bytes ++ List.replicate (8 - bytes.length) 0)
  | .big => ofBytes (List.replicate (8 - bytes.length) 0 ++ bytes).reverse

theorem bytes_eq (register : BitVec 64) : bytes register = littleBytes 8 register.toNat := by
  apply List.ext_getElem?
  intro index
  by_cases hIndex : index < 8
  · have hByte : UInt8.ofBitVec (register.extractLsb' (8 * index) 8) =
        UInt8.ofNat (register.toNat / 256 ^ index) := by
      apply UInt8.toNat_inj.mp
      rw [UInt8.toNat_ofBitVec, BitVec.extractLsb'_toNat, Nat.shiftRight_eq_div_pow, Nat.pow_mul,
        UInt8.toNat_ofNat']
    rw [littleBytes_getElem? _ hIndex, bytes, List.getElem?_map, List.getElem?_range hIndex,
      Option.map_some, hByte]
  · have hBytes : (bytes register).length = 8 := rfl
    rw [List.getElem?_eq_none (by omega), List.getElem?_eq_none (by rw [littleBytes_length]; omega)]

theorem toNat_ofBytes {bytes : Bytes} (h : bytes.length ≤ 8) :
    (ofBytes bytes).toNat = littleValue bytes := by
  induction bytes with
  | nil => rfl
  | cons byte rest ih =>
      rw [List.length_cons] at h
      have hByte : byte.toNat < 2 ^ 8 := byte.toNat_lt
      have hRest : littleValue rest < 256 ^ 7 :=
        Nat.lt_of_lt_of_le (littleValue_lt rest) (Nat.pow_le_pow_right (by decide) (by omega))
      -- The higher bytes fill seven at most, so that nothing is shifted out.
      have hHigh : (ofBytes rest <<< 8).toNat = littleValue rest <<< 8 := by
        rw [BitVec.toNat_shiftLeft, ih (by omega), Nat.mod_eq_of_lt]
        rw [Nat.shiftLeft_eq]
        omega
      have hLow : (byte.toBitVec.setWidth 64).toNat = byte.toNat :=
        BitVec.toNat_setWidth_of_le (by decide)
      change (ofBytes rest <<< 8 ||| byte.toBitVec.setWidth 64).toNat = _
      rw [BitVec.toNat_or, hHigh, hLow, ← Nat.shiftLeft_add_eq_or_of_lt hByte, Nat.shiftLeft_eq,
        littleValue]
      omega

theorem write_eq {size : Nat} (order : ByteOrder) (register : BitVec 64) (h : size ≤ 8) :
    write order size register = order.encode size register.toNat := by
  cases order with
  | little => rw [write, bytes_eq, littleBytes_take _ h, ByteOrder.encode]
  | big =>
      have hFront : 8 - (8 - size) = size := by omega
      rw [write, bytes_eq, List.drop_reverse, littleBytes_length, hFront, littleBytes_take _ h,
        ByteOrder.encode]

theorem toNat_read {bytes : Bytes} (order : ByteOrder) (h : bytes.length ≤ 8) :
    (read order bytes).toNat = order.decode bytes := by
  cases order with
  | little =>
      have hFull : (bytes ++ List.replicate (8 - bytes.length) 0).length ≤ 8 := by
        rw [List.length_append, List.length_replicate]
        omega
      rw [read, toNat_ofBytes hFull, littleValue_append_zeros, ByteOrder.decode]
  | big =>
      have hFull : (List.replicate (8 - bytes.length) 0 ++ bytes).reverse.length ≤ 8 := by
        rw [List.length_reverse, List.length_append, List.length_replicate]
        omega
      rw [read, toNat_ofBytes hFull, List.reverse_append, List.reverse_replicate,
        littleValue_append_zeros, ByteOrder.decode]

end Register

section Rows

variable {arch : Architecture} {host : Host} {past : List Request} {address : Nat}

theorem BodyPart.encodeAll_words (arch : Architecture) (words : List Nat) :
    BodyPart.encodeAll arch (words.map .word) = .ok (words.flatMap arch.encodeWord) := by
  unfold BodyPart.encodeAll
  rw [ImageBuilder.mapM_encode_word, List.flatMap_def]
  rfl

/-- Bytes in the length that was asked for are taken as they are. -/
theorem Inquiry.run_bytes {data : Bytes} (hReach : address + data.length < machineBound)
    (hAnswer : host past ⟨address, data.length⟩ = .ok data) :
    (Inquiry.bytes address data.length).run host past =
      ⟨.ok data, [⟨⟨address, data.length⟩, .ok data⟩]⟩ := by
  rw [Inquiry.bytes, if_pos hReach]
  simp only [Inquiry.run, hAnswer, if_true]

namespace Architecture

theorem decodeUnsigned_eq {bytes : Bytes} (h : bytes.length ≤ 8) :
    arch.decodeUnsigned bytes = .done (arch.order.decode bytes) := if_pos h

theorem forEach_decodeUnsigned (words : List Nat) :
    Inquiry.forEach arch.decodeUnsigned (words.map arch.encodeWord) =
      .done (words.map (· % arch.width.modulus)) := by
  induction words with
  | nil => rfl
  | cons word rest ih =>
      have hSize : (arch.encodeWord word).length ≤ 8 := by
        rw [encodeWord_length]
        exact arch.wordSize_le
      rw [List.map_cons, Inquiry.forEach, decodeUnsigned_eq hSize, decode_encodeWord, ih]
      rfl

/-- A row that the host answers with is read with a single request. -/
theorem run_readWords {words : List Nat} {row : Bytes} (hRow : words.flatMap arch.encodeWord = row)
    (hReach : address + row.length < machineBound)
    (hAnswer : host past ⟨address, row.length⟩ = .ok row) :
    (arch.readWords address words.length).run host past =
      ⟨.ok (words.map (· % arch.width.modulus)), [⟨⟨address, row.length⟩, .ok row⟩]⟩ := by
  have hSize : arch.wordSize * words.length = row.length := by
    rw [← hRow, flatMap_encodeWord_length, Nat.mul_comm]
  have hNatural : Inquiry.natural row.length = .done row.length := if_pos (by omega)
  have hBytes := Inquiry.run_bytes hReach hAnswer
  have hPieces : pieces arch.wordSize row = words.map arch.encodeWord := by
    rw [← hRow, pieces_flatMap arch.wordSize_pos arch.encodeWord_length]
  unfold readWords
  rw [hSize, hNatural]
  change (Inquiry.bytes address row.length >>= _).run host past = _
  rw [Inquiry.run_bind_of_ok _ (congrArg Run.outcome hBytes), hPieces, forEach_decodeUnsigned, hBytes]
  rfl

/-- A row that does not end within the address space is not asked for. -/
theorem readWords_fails {count : Nat} (h : machineBound ≤ address + arch.wordSize * count) :
    ∃ failure, arch.readWords address count = .fail failure := by
  unfold readWords Inquiry.natural
  split
  · change ∃ failure, (Inquiry.bytes address (arch.wordSize * count)).bind _ = .fail failure
    rw [Inquiry.bytes, if_neg (by omega)]
    exact ⟨_, rfl⟩
  · exact ⟨_, rfl⟩

end Architecture

end Rows

/-- Integers are written and read alike. An integer that is written in up to eight bytes has its byte of
each weight at the place that the order says, and is read as its remainder at that size. Every row of up
to eight bytes is read as an integer that a register holds, and that one is written as the same row again.
Words that are written one behind the other are read together as their remainders at the width, with a
single request to whatever host answers with their bytes, if and only if the bytes end within the address
space. Registers that keep a slice of their bytes, and are filled up with zeros at the other end, hold the
same integers. -/
theorem integers_are_read_as_written (arch : Architecture) :
    (∀ size value, size ≤ 8 →
      ∃ bytes, BodyPart.encode arch (.unsigned value size) = .ok bytes ∧ bytes.length = size ∧
        (∀ power, power < size →
          bytes[arch.order.place size power]? = some (UInt8.ofNat (value / 256 ^ power))) ∧
        arch.decodeUnsigned bytes = .done (value % 256 ^ size)) ∧
    (∀ bytes : Bytes, bytes.length ≤ 8 →
      ∃ value, arch.decodeUnsigned bytes = .done value ∧ value < machineBound ∧
        BodyPart.encode arch (.unsigned value bytes.length) = .ok bytes) ∧
    (∀ words : List Nat, ∃ row, BodyPart.encodeAll arch (words.map .word) = .ok row ∧
      row.length = words.length * arch.wordSize ∧
      ∀ host past address, host past ⟨address, row.length⟩ = .ok row →
        ((arch.readWords address words.length).run host past =
            ⟨.ok (words.map (· % 2 ^ arch.width.bits)), [⟨⟨address, row.length⟩, .ok row⟩]⟩ ↔
          address + row.length < machineBound)) ∧
    (∀ size (register : BitVec 64), size ≤ 8 →
      BodyPart.encode arch (.unsigned register.toNat size) =
        .ok (Register.write arch.order size register)) ∧
    ∀ bytes : Bytes, bytes.length ≤ 8 →
      arch.decodeUnsigned bytes = .done (Register.read arch.order bytes).toNat := by
  refine ⟨?_, ?_, ?_, ?_, ?_⟩
  · intro size value hSize
    have hLength := arch.order.encode_length size value
    refine ⟨arch.order.encode size value, rfl, hLength, ?_, ?_⟩
    · exact fun power hPower => arch.order.encode_getElem? value hPower
    · rw [Architecture.decodeUnsigned_eq (by omega), ByteOrder.decode_encode]
  · intro bytes hBytes
    refine ⟨arch.order.decode bytes, Architecture.decodeUnsigned_eq hBytes, ?_, ?_⟩
    · exact Nat.lt_of_lt_of_le (arch.order.decode_lt bytes) (Nat.pow_le_pow_right (by decide) hBytes)
    · exact congrArg Except.ok (arch.order.encode_decode bytes)
  · intro words
    have hLength := arch.flatMap_encodeWord_length words
    refine ⟨_, BodyPart.encodeAll_words arch words, hLength, ?_⟩
    intro host past address hAnswer
    rw [← arch.width.modulus_eq]
    constructor
    · intro hRun
      by_contra hFar
      rw [hLength, Nat.mul_comm, Nat.not_lt] at hFar
      obtain ⟨failure, hFailure⟩ := Architecture.readWords_fails hFar
      rw [hFailure] at hRun
      cases hRun
    · exact fun hReach => Architecture.run_readWords rfl hReach hAnswer
  · intro size register hSize
    rw [BodyPart.encode, Register.write_eq arch.order register hSize]
  · intro bytes hBytes
    rw [Architecture.decodeUnsigned_eq hBytes, Register.toNat_read arch.order hBytes]

/-- A row of two words of the narrow width, the highest byte first. -/
def MemoryImage.bigEndianWords : MemoryImage :=
  ⟨⟨.w32, .big⟩, [⟨0x1000, [0, 0, 0, 1, 0xff, 0xff, 0xff, 0xfe]⟩], .empty⟩

/-- The low three bytes of a longer integer, and words with bits above the width. -/
theorem integers_are_read_as_written_cut :
    BodyPart.encode ⟨.w32, .big⟩ (.unsigned 0x01_0203_0405 3) = .ok [3, 4, 5] ∧
    Architecture.decodeUnsigned ⟨.w32, .big⟩ [3, 4, 5] = .done 0x030405 ∧
    BodyPart.encode ⟨.w32, .big⟩ (.unsigned 0x030405 3) = .ok [3, 4, 5] ∧
    BodyPart.encodeAll ⟨.w32, .big⟩ [.word 0x7_0000_0001, .word 0xffff_ffff_fffe] =
      .ok [0, 0, 0, 1, 0xff, 0xff, 0xff, 0xfe] ∧
    (Architecture.readWords ⟨.w32, .big⟩ 0x1000 2).run MemoryImage.bigEndianWords.host [] =
      ⟨.ok [1, 0xffff_fffe], [⟨⟨0x1000, 8⟩, .ok [0, 0, 0, 1, 0xff, 0xff, 0xff, 0xfe]⟩]⟩ ∧
    Register.write .big 3 0x01_0203_0405#64 = [3, 4, 5] := by
  obtain ⟨hWritten, hRead, hRows, hRegister, _⟩ := integers_are_read_as_written ⟨.w32, .big⟩
  have hCut : BodyPart.encode ⟨.w32, .big⟩ (.unsigned 0x01_0203_0405 3) = .ok [3, 4, 5] := by decide
  have hWords : BodyPart.encodeAll ⟨.w32, .big⟩ [.word 0x7_0000_0001, .word 0xffff_ffff_fffe] =
      .ok [0, 0, 0, 1, 0xff, 0xff, 0xff, 0xfe] := by decide
  have hRemainders : [0x7_0000_0001, 0xffff_ffff_fffe].map (· % 2 ^ Width.bits .w32) =
      [1, 0xffff_fffe] := by decide
  obtain ⟨_, hWrittenCut, _, _, hRemainder⟩ := hWritten 3 0x01_0203_0405 (by decide)
  cases hCut.symm.trans hWrittenCut
  obtain ⟨value, hValue, _, hBack⟩ := hRead [3, 4, 5] (by decide)
  cases hValue.symm.trans hRemainder
  obtain ⟨row, hRow, _, hReading⟩ := hRows [0x7_0000_0001, 0xffff_ffff_fffe]
  cases hWords.symm.trans hRow
  have hRun := (hReading MemoryImage.bigEndianWords.host [] 0x1000 (by decide)).mpr (by decide)
  rw [hRemainders] at hRun
  have hRegisterCut := hRegister 3 0x01_0203_0405#64 (by decide)
  exact ⟨hCut, hRemainder, hBack, hWords, hRun, Except.ok.inj (hRegisterCut.symm.trans hCut)⟩

end HeapInspector
