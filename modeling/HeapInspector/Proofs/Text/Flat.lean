import HeapInspector.Description
import Mathlib.Tactic.SplitIfs

/-! Flat texts. A text without control characters neither ends a line nor begins a control sequence.
Whatever bytes the inspector tells about, it tells in flat texts. Only what it hands on from others can
be different: the names of types, and the reasons of a host. -/
namespace HeapInspector

/-- No character comes before the blank. -/
def Flat (text : String) : Prop := ∀ c ∈ text.toList, ' ' ≤ c

-- Only the characters of the text are looked at, and not all that there are.
instance (text : String) : Decidable (Flat text) := List.decidableBAll (' ' ≤ ·) text.toList

variable {first second text : String} {chars more : List Char}

theorem Flat.not_mem (h : Flat text) {c : Char} (hControl : c < ' ') : c ∉ text.toList :=
  fun hMem => Char.not_lt.mpr (h c hMem) hControl

@[simp] theorem flat_append : Flat (first ++ second) ↔ Flat first ∧ Flat second := by
  simp only [Flat, String.toList_append, List.forall_mem_append]

theorem flat_ofList : Flat (String.ofList chars) ↔ ∀ c ∈ chars, ' ' ≤ c := by
  rw [Flat, String.toList_ofList]

theorem flat_cons {c : Char} (h : ' ' ≤ c) (hRest : Flat (String.ofList chars)) :
    Flat (String.ofList (c :: chars)) :=
  flat_ofList.mpr (List.forall_mem_cons.mpr ⟨h, flat_ofList.mp hRest⟩)

theorem flat_singleton {c : Char} (h : ' ' ≤ c) : Flat (String.ofList [c]) := flat_cons h (by decide)

@[simp] theorem flat_ofList_append :
    Flat (String.ofList (chars ++ more)) ↔ Flat (String.ofList chars) ∧ Flat (String.ofList more) := by
  rw [String.ofList_append, flat_append]

theorem Flat.subset (h : Flat (String.ofList chars)) (hSubset : more ⊆ chars) :
    Flat (String.ofList more) :=
  flat_ofList.mpr fun c hMem => flat_ofList.mp h c (hSubset hMem)

theorem le_digitChar (digit : Nat) : ' ' ≤ Nat.digitChar digit := by
  have hSmall : ∀ digit < 16, ' ' ≤ Nat.digitChar digit := by decide
  by_cases hDigit : digit < 16
  · exact hSmall digit hDigit
  · have hOther : Nat.digitChar digit = '*' := by
      unfold Nat.digitChar
      repeat rw [if_neg (by omega)]
    rw [hOther]
    decide

theorem flat_toDigits {base : Nat} (hBase : 1 < base) (value : Nat) :
    Flat (String.ofList (Nat.toDigits base value)) := by
  induction value using Nat.strongRecOn with
  | ind value ih =>
      rw [Nat.toDigits_eq_if hBase]
      split
      · exact flat_singleton (le_digitChar value)
      · rename_i hLarge
        have hLess : value / base < value := Nat.div_lt_self (by omega) hBase
        exact flat_ofList_append.mpr ⟨ih _ hLess, flat_singleton (le_digitChar _)⟩

namespace Numeral

@[simp] theorem flat_decimal (value : Nat) : Flat (decimal value) := flat_toDigits (by decide) value

@[simp] theorem flat_hex (value : Nat) : Flat (hex value) :=
  flat_append.mpr ⟨by decide, flat_toDigits (by decide) value⟩

@[simp] theorem flat_signedDecimal (value : Int) : Flat (signedDecimal value) := by
  cases value with
  | ofNat value => exact flat_decimal value
  | negSucc value => exact flat_append.mpr ⟨by decide, flat_decimal _⟩

theorem flat_byteDigits (byte : UInt8) : Flat (String.ofList (byteDigits byte)) :=
  flat_cons (le_digitChar _) (flat_singleton (le_digitChar _))

end Numeral

namespace Decimal

theorem flat_shortest (i : Interval) : Flat (String.ofList (shortest i).digits) := by
  unfold shortest
  dsimp only
  split
  · rename_i digits unit hHit
    obtain ⟨count, _, hCount⟩ := List.exists_of_findSome?_eq_some hHit
    obtain ⟨n, _, hDigits⟩ := Option.map_eq_some_iff.mp hCount
    rw [← (Prod.mk.inj hDigits).1]
    have hBase : 1 < 10 := by decide
    apply (flat_toDigits hBase n).subset
    intro c hMem
    exact List.mem_reverse.mp ((List.dropWhile_sublist _).subset (List.mem_reverse.mp hMem))
  · decide

theorem Layout.flat_render {layout : Layout} (hMark : Flat layout.exponentMark) {d : Digits}
    (h : Flat (String.ofList d.digits)) : Flat (layout.render d) := by
  have hTake (count : Nat) : Flat (String.ofList (d.digits.take count)) :=
    h.subset (List.take_subset _ _)
  have hDrop (count : Nat) : Flat (String.ofList (d.digits.drop count)) :=
    h.subset (List.drop_subset _ _)
  have hZeros (count : Nat) : Flat (String.ofList (List.replicate count '0')) := by
    rw [flat_ofList]
    intro c hMem
    rw [List.eq_of_mem_replicate hMem]
    decide
  unfold render
  dsimp only
  split_ifs <;> simp only [flat_append, flat_ofList_append, h, hTake, hDrop, hZeros, hMark,
    Numeral.flat_signedDecimal, and_true, true_and] <;> decide

end Decimal

theorem Binary64.flat_text (x : Binary64) : Flat x.text := by
  have hDigits : Flat (layout.render (Decimal.shortest x.interval)) :=
    Decimal.Layout.flat_render (by decide) (Decimal.flat_shortest _)
  unfold text
  split
  · decide
  · rw [flat_append]
    constructor
    · split <;> decide
    · split_ifs
      · decide
      · decide
      · exact hDigits

theorem flat_flatMap {α : Type} {f : α → List Char} {list : List α}
    (h : ∀ a, Flat (String.ofList (f a))) : Flat (String.ofList (list.flatMap f)) := by
  rw [flat_ofList]
  intro c hMem
  obtain ⟨a, _, hChar⟩ := List.mem_flatMap.mp hMem
  exact flat_ofList.mp (h a) c hChar

namespace Quoted

theorem flat_encodeChar (c : Char) : Flat (String.ofList (encodeChar c)) := by
  unfold encodeChar
  split
  · rename_i letter hEscape
    apply flat_cons (by decide)
    apply flat_singleton
    unfold shortEscape? at hEscape
    split_ifs at hEscape <;> cases hEscape <;> decide
  · split
    · exact flat_ofList_append.mpr ⟨by decide, Numeral.flat_byteDigits _⟩
    · rename_i hControl
      exact flat_singleton (Nat.le_of_not_lt hControl)

theorem flat_quote (text : String) : Flat (quote text) := by
  have hBody : Flat (String.ofList ('"' :: text.toList.flatMap encodeChar)) :=
    flat_cons (by decide) (flat_flatMap flat_encodeChar)
  exact flat_ofList_append.mpr ⟨hBody, flat_singleton (by decide)⟩

end Quoted

namespace Escaped

theorem flat_encodeByte (byte : UInt8) : Flat (String.ofList (encodeByte byte)) := by
  have hLetters : ∀ entry ∈ shortEscapes, ' ' ≤ entry.2 := by decide
  have hPrintable : ∀ n < 0x7F, 0x20 ≤ n → ' ' ≤ Char.ofNat n := by decide
  unfold encodeByte
  split
  · rename_i letter hEscape
    obtain ⟨before, after, hEntries, _⟩ := List.lookup_eq_some_iff.mp hEscape
    have hLetter : ' ' ≤ letter := hLetters (byte, letter) (by simp [hEntries])
    exact flat_cons (by decide) (flat_singleton hLetter)
  · split
    · rename_i hRange
      exact flat_singleton (hPrintable byte.toNat hRange.2 hRange.1)
    · exact flat_cons (by decide) (flat_cons (by decide) (Numeral.flat_byteDigits byte))

theorem flat_quote (bytes : Bytes) : Flat (quote bytes) :=
  flat_append.mpr ⟨flat_append.mpr ⟨by decide, flat_flatMap flat_encodeByte⟩, by decide⟩

end Escaped

@[simp] theorem Inconsistency.flat_message (kind : Inconsistency) : Flat kind.message := by
  unfold message
  cases kind <;> simp only [flat_append, Numeral.flat_decimal, Numeral.flat_signedDecimal,
    Numeral.flat_hex, and_true, true_and] <;> decide +kernel

/-- The reason of a host is part of the message. -/
theorem AccessFault.flat_message {fault : AccessFault} (h : Flat fault.reason) :
    Flat fault.message := by
  unfold message
  simp only [flat_append, Numeral.flat_decimal, Numeral.flat_hex, h, and_true]
  decide +kernel

theorem Error.flat_message_decode (address : Nat) (kind : Inconsistency) :
    Flat (decode address kind).message := by
  unfold message
  simp only [flat_append, Numeral.flat_hex, kind.flat_message, and_true]
  decide +kernel

theorem Tagged.flat_display (tagged : Tagged) : Flat tagged.display := by
  unfold display
  cases tagged with
  | null => decide
  | smallInt value =>
      simp only [flat_append, Numeral.flat_signedDecimal, and_true]
      decide
  | reference address => exact Numeral.flat_hex address

theorem FieldValue.flat_displayBool (value : Bool) : Flat (displayBool value) := by
  cases value <;> decide

theorem GcState.flat_name (state : GcState) : Flat state.name := by
  cases state <;> decide

theorem FieldValue.flat_display_unavailable {e : Error} (h : Flat e.message) :
    Flat (unavailable e).display := by
  unfold display
  simp only [flat_append, h, and_true]
  decide +kernel

theorem FieldValue.flat_display {value : FieldValue} (h : value.isUnavailable = false) :
    Flat value.display := by
  cases value with
  | tagged value => exact value.flat_display
  | bool value => exact flat_displayBool value
  | int value => exact Numeral.flat_signedDecimal value
  | unsigned value => exact Numeral.flat_decimal value
  | float value => exact value.flat_text
  | text value => exact Quoted.flat_quote value
  | bytes value => exact Escaped.flat_quote value
  | unavailable e => cases h

/-- The name of its type is all that the line of an object takes from others. -/
theorem ObjectDescription.not_mem_display {d : ObjectDescription} {c : Char} (hControl : c < ' ')
    (hName : c ∉ d.typeName.display.toList) : c ∉ d.display.toList := by
  have hFlat {text : String} (h : Flat text) : c ∉ text.toList := h.not_mem hControl
  unfold display
  simp only [String.toList_append, List.mem_append, not_or]
  exact ⟨⟨⟨⟨⟨⟨⟨hFlat (Numeral.flat_hex _), hFlat (by decide)⟩, hName⟩, hFlat (by decide)⟩,
    hFlat (GcState.flat_name _)⟩, hFlat (by decide)⟩, hFlat (FieldValue.flat_displayBool _)⟩,
    hFlat (by decide)⟩

end HeapInspector
