import HeapInspector.Proofs.Utf8
import Mathlib.Algebra.Group.Nat.Defs
import Mathlib.Data.List.Infix

/-! The order of texts. Two texts are compared character by character and their encodings byte by byte, and
both comparisons agree: of two characters the smaller one has the smaller encoding, whatever stands
behind them. -/
namespace HeapInspector.Utf8

/-- The low digits of a number in base 64, the most significant one first, as they stand behind the first
byte of a character. -/
def trail : Nat → Nat → List UInt8
  | 0, _ => []
  | count + 1, value => UInt8.ofNat (value / 64 ^ count % 64 + 128) :: trail count value

/-- The number of bytes behind the first byte of a code point. -/
def trailSize (value : Nat) : Nat :=
  if value ≤ 0x7F then 0 else if value ≤ 0x7FF then 1 else if value ≤ 0xFFFF then 2 else 3

/-- What marks a first byte with so many bytes behind it. -/
def leadMark : Nat → Nat
  | 0 => 0
  | 1 => 0xC0
  | 2 => 0xE0
  | _ => 0xF0

/-- The first byte of a code point: its mark, and the digits that the bytes behind it do not hold. -/
def lead (value : Nat) : Nat := value / 64 ^ trailSize value + leadMark (trailSize value)

theorem toNat_lt (c : Char) : c.toNat < 0x110000 := by
  rcases c.valid with hLow | ⟨_, hHigh⟩
  · exact Nat.lt_trans hLow (by decide)
  · exact hHigh

/-- The masks in the definition of the encoding take nothing away from the digits of a code point. -/
theorem utf8EncodeChar_eq (c : Char) : String.utf8EncodeChar c =
    UInt8.ofNat (lead c.toNat) :: trail (trailSize c.toNat) c.toNat := by
  have hBound := toNat_lt c
  have hValue : c.val.toNat = c.toNat := rfl
  unfold String.utf8EncodeChar lead trailSize
  rw [hValue]
  dsimp only
  split_ifs
  · simp [leadMark, trail]
  · have hDigits : c.toNat / 64 % 32 = c.toNat / 64 := by omega
    simp [leadMark, trail, hDigits]
  · have hDigits : c.toNat / 4096 % 16 = c.toNat / 4096 := by omega
    simp [leadMark, trail, hDigits]
  · have hDigits : c.toNat / 262144 % 8 = c.toNat / 262144 := by omega
    simp [leadMark, trail, hDigits]

theorem ofNat_lt_ofNat {first second : Nat} (hLess : first < second) (hFits : second < 256) :
    UInt8.ofNat first < UInt8.ofNat second := by
  rw [UInt8.lt_iff_toNat_lt, UInt8.toNat_ofNat', UInt8.toNat_ofNat']
  omega

/-- As many digits of two numbers are compared as what they denote. -/
theorem trail_append_lt {count first second : Nat} (h : first % 64 ^ count < second % 64 ^ count)
    (s t : List UInt8) : trail count first ++ s < trail count second ++ t := by
  induction count with
  | zero => simp [Nat.mod_one] at h
  | succ count ih =>
      rw [Nat.mod_pow_succ, Nat.mod_pow_succ] at h
      rw [trail, trail, List.cons_append, List.cons_append, List.cons_lt_cons_iff]
      rcases Nat.lt_trichotomy (first / 64 ^ count % 64) (second / 64 ^ count % 64) with
        hLess | hSame | hMore
      · exact .inl (ofNat_lt_ofNat (by omega) (by omega))
      · rw [hSame] at h
        exact .inr ⟨by rw [hSame], ih (by omega)⟩
      · -- A larger digit outweighs all digits behind it.
        have hRest := Nat.mod_lt second (Nat.pow_pos (n := count) (show 0 < 64 by decide))
        have hDigit := Nat.mul_le_mul_left (64 ^ count) hMore
        rw [Nat.mul_succ] at hDigit
        omega

/-- Of two code points the smaller one has the smaller first byte, or they differ only behind it. -/
theorem lead_lt_or_eq {first second : Nat} (h : first < second) :
    lead first < lead second ∨ lead first = lead second ∧ trailSize first = trailSize second ∧
      first % 64 ^ trailSize first < second % 64 ^ trailSize first := by
  unfold lead trailSize
  split_ifs <;> simp [leadMark] <;> omega

theorem lead_lt {value : Nat} (h : value < 0x110000) : lead value < 256 := by
  unfold lead trailSize
  split_ifs <;> simp [leadMark] <;> omega

theorem utf8EncodeChar_append_lt {c d : Char} (h : c < d) (s t : List UInt8) :
    String.utf8EncodeChar c ++ s < String.utf8EncodeChar d ++ t := by
  have hValues : c.toNat < d.toNat := UInt32.lt_iff_toNat_lt.mp (Char.lt_def.mp h)
  rw [utf8EncodeChar_eq, utf8EncodeChar_eq, List.cons_append, List.cons_append,
    List.cons_lt_cons_iff]
  rcases lead_lt_or_eq hValues with hLead | ⟨hLead, hSize, hTrail⟩
  · exact .inl (ofNat_lt_ofNat hLead (lead_lt (toNat_lt d)))
  · rw [← hLead, ← hSize]
    exact .inr ⟨rfl, trail_append_lt hTrail s t⟩

theorem flatMap_utf8EncodeChar_lt {first second : List Char} (h : first < second) :
    first.flatMap String.utf8EncodeChar < second.flatMap String.utf8EncodeChar := by
  induction first generalizing second with
  | nil =>
      cases second with
      | nil => cases h
      | cons d others =>
          rw [List.flatMap_cons, utf8EncodeChar_eq, List.cons_append]
          exact List.nil_lt_cons _ _
  | cons c rest ih =>
      cases second with
      | nil => cases h
      | cons d others =>
          rw [List.flatMap_cons, List.flatMap_cons]
          rcases List.cons_lt_cons_iff.mp h with hLess | ⟨rfl, hRest⟩
          · exact utf8EncodeChar_append_lt hLess _ _
          · exact List.append_left_lt (ih hRest)

/-- Texts are in the order of their encodings. -/
theorem encode_lt_encode_iff {first second : List Char} :
    encode (String.ofList first) < encode (String.ofList second) ↔ first < second := by
  rw [encode_ofList, encode_ofList]
  constructor
  · intro h
    rcases Std.lt_trichotomy first second with hLess | rfl | hMore
    · exact hLess
    · exact absurd h (List.lt_irrefl _)
    · exact absurd h (List.lt_asymm (flatMap_utf8EncodeChar_lt hMore))
  · exact flatMap_utf8EncodeChar_lt

/-- The texts that start with a given one stand together: nothing from it on is between them. -/
theorem lt_of_isPrefix {text first second : List Char} (hFrom : ¬ first < text)
    (hFirst : ¬ text <+: first) (hSecond : text <+: second) : second < first := by
  induction text generalizing first second with
  | nil => exact absurd List.nil_prefix hFirst
  | cons c rest ih =>
      obtain ⟨behind, rfl⟩ := hSecond
      cases first with
      | nil => exact absurd (List.nil_lt_cons _ _) hFrom
      | cons d others =>
          rw [List.cons_append, List.cons_lt_cons_iff]
          rw [List.cons_lt_cons_iff] at hFrom
          rw [List.cons_prefix_cons] at hFirst
          rcases Std.lt_trichotomy c d with hLess | rfl | hMore
          · exact .inl hLess
          · have hRest : rest ++ behind < others :=
              ih (fun h => hFrom (.inr ⟨rfl, h⟩)) (fun h => hFirst ⟨rfl, h⟩) (List.prefix_append _ _)
            exact .inr ⟨rfl, hRest⟩
          · exact absurd (.inl hMore) hFrom

end HeapInspector.Utf8
