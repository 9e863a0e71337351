import HeapInspector.Proofs.Text.Blank
import HeapInspector.TypeTable.WordText
import Mathlib.Data.List.Forall2

/-! The texts that are words. The reader of words is held against a grammar: a mark that tells the base,
an optional plus sign, and digits of this base, with underscores anywhere behind the mark. What the
grammar gives is what is read, and the forms in which words are printed are all within it. -/
namespace HeapInspector

namespace Numeral

variable {base bound value word : Nat} {c : Char} {text : List Char} {digits : List Nat}

/-- A digit of either case and its value. -/
def IsDigit (base : Nat) (c : Char) (value : Nat) : Prop :=
  value < base ∧ (c = Nat.digitChar value ∨ c = (Nat.digitChar value).toUpper)

instance : Decidable (IsDigit base c value) := inferInstanceAs (Decidable (_ ∧ _))

theorem digit?_sixteen_of_isDigit (h : IsDigit 16 c value) : digit? 16 c = some value := by
  have hEach : ∀ value < 16, digit? 16 (Nat.digitChar value) = some value ∧
      digit? 16 (Nat.digitChar value).toUpper = some value := by decide
  rcases h with ⟨hValue, rfl | rfl⟩
  · exact (hEach value hValue).1
  · exact (hEach value hValue).2

theorem toNat_lt_of_digit?_sixteen (h : digit? 16 c = some value) : c.toNat < 128 := by
  obtain ⟨hRaw, _⟩ := Option.filter_eq_some_iff.mp h
  split_ifs at hRaw with hDecimal hSmall hCapital
  · exact Nat.lt_of_le_of_lt hDecimal.2 (by decide)
  · exact Nat.lt_of_le_of_lt hSmall.2 (by decide)
  · exact Nat.lt_of_le_of_lt hCapital.2 (by decide)

theorem isDigit_of_digit?_sixteen (h : digit? 16 c = some value) : IsDigit 16 c value := by
  have hEach : ∀ code < 128, ∀ value < 16, digit? 16 (Char.ofNat code) = some value →
      IsDigit 16 (Char.ofNat code) value := by decide +kernel
  have hValue : value < 16 := by simpa using (Option.filter_eq_some_iff.mp h).2
  have hCode := hEach c.toNat (toNat_lt_of_digit?_sixteen h) value hValue
  rw [Char.ofNat_toNat] at hCode
  exact hCode h

/-- In a smaller base fewer of the hexadecimal digits are digits. -/
theorem digit?_eq_filter (hBase : base ≤ 16) (c : Char) :
    digit? base c = (digit? 16 c).filter (· < base) := by
  rw [digit?, digit?, Option.filter_filter]
  congr 1
  funext value
  rw [← Bool.decide_and]
  exact decide_eq_decide.mpr (by omega)

theorem digit?_eq_some_iff (hBase : base ≤ 16) : digit? base c = some value ↔ IsDigit base c value := by
  rw [digit?_eq_filter hBase, Option.filter_eq_some_iff]
  constructor
  · rintro ⟨hDigit, hValue⟩
    exact ⟨by simpa using hValue, (isDigit_of_digit?_sixteen hDigit).2⟩
  · rintro ⟨hValue, hChar⟩
    exact ⟨digit?_sixteen_of_isDigit ⟨by omega, hChar⟩, by simpa using hValue⟩

theorem not_isDigit (hBase : base ≤ 16) (hNone : digit? 16 c = none) : ¬ IsDigit base c value := by
  intro h
  rw [digit?_sixteen_of_isDigit ⟨Nat.lt_of_lt_of_le h.1 hBase, h.2⟩] at hNone
  cases hNone

/-- Digits with their values, the most significant one first. -/
abbrev AreDigits (base : Nat) (text : List Char) (digits : List Nat) : Prop :=
  List.Forall₂ (IsDigit base) text digits

theorem le_foldl_digits (hBase : 0 < base) (value : Nat) (digits : List Nat) :
    value ≤ digits.foldl (fun value digit => value * base + digit) value := by
  induction digits generalizing value with
  | nil => exact Nat.le_refl _
  | cons digit rest ih =>
      have hGrows : value ≤ value * base := Nat.le_mul_of_pos_right _ hBase
      exact Nat.le_trans (by omega) (ih (value * base + digit))

/-- The reader stops where the value leaves the bound, and digits that follow can only add to it. -/
theorem readDigits_eq_ok_iff (hBase : 0 < base) (hSixteen : base ≤ 16) (hValue : value < bound) :
    readDigits base bound value text = .ok word ↔ word < bound ∧
      ∃ digits, AreDigits base text digits ∧
        digits.foldl (fun value digit => value * base + digit) value = word := by
  induction text generalizing value with
  | nil =>
      simp only [readDigits, AreDigits, Except.ok.injEq, List.forall₂_nil_left_iff]
      constructor
      · rintro rfl
        exact ⟨hValue, [], rfl, rfl⟩
      · rintro ⟨_, _, rfl, hWord⟩
        exact hWord
  | cons c rest ih =>
      rw [readDigits]
      constructor
      · intro h
        split at h
        · cases h
        · rename_i digit hDigit
          dsimp only at h
          split_ifs at h with hNext
          obtain ⟨hWord, digits, hDigits, hFold⟩ := (ih hNext).mp h
          exact ⟨hWord, digit :: digits, .cons ((digit?_eq_some_iff hSixteen).mp hDigit) hDigits, hFold⟩
      · rintro ⟨hWord, _, hDigits, hFold⟩
        cases hDigits with
        | @cons _ digit _ digits hFirst hRest =>
            have hNext : value * base + digit < bound := by
              have hGrows := le_foldl_digits hBase (value * base + digit) digits
              rw [List.foldl_cons] at hFold
              omega
            rw [(digit?_eq_some_iff hSixteen).mpr hFirst]
            dsimp only
            rw [if_pos hNext, ih hNext]
            exact ⟨hWord, digits, hRest, hFold⟩

/-- At least one digit, and nothing else. -/
def IsRow (base : Nat) (text : List Char) (value : Nat) : Prop :=
  text ≠ [] ∧ ∃ digits, AreDigits base text digits ∧ ofDigits base digits = value

/-- The numerals of a base: a row of digits, with or without a plus sign in front. -/
def IsNumeral (base : Nat) (text : List Char) (value : Nat) : Prop :=
  ∃ row, (text = row ∨ text = '+' :: row) ∧ IsRow base row value

theorem not_isRow_plus (hBase : base ≤ 16) (rest : List Char) : ¬ IsRow base ('+' :: rest) value := by
  rintro ⟨_, _, hDigits, _⟩
  cases hDigits with
  | cons hFirst _ => exact not_isDigit hBase (by decide) hFirst

theorem isNumeral_plus_iff (hBase : base ≤ 16) (row : List Char) :
    IsNumeral base ('+' :: row) value ↔ IsRow base row value := by
  constructor
  · rintro ⟨other, rfl | hSame, hRow⟩
    · exact absurd hRow (not_isRow_plus hBase row)
    · cases hSame
      exact hRow
  · exact fun hRow => ⟨row, .inr rfl, hRow⟩

theorem isNumeral_iff_of_no_plus (hPlus : ∀ row, text ≠ '+' :: row) :
    IsNumeral base text value ↔ IsRow base text value := by
  constructor
  · rintro ⟨row, rfl | hSame, hRow⟩
    · exact hRow
    · exact absurd hSame (hPlus row)
  · exact fun hRow => ⟨text, .inl rfl, hRow⟩

theorem readDigits_eq_ok_iff_isRow (hBase : 0 < base) (hSixteen : base ≤ 16) (hBound : 0 < bound)
    (hText : text ≠ []) :
    readDigits base bound 0 text = .ok word ↔ IsRow base text word ∧ word < bound := by
  rw [readDigits_eq_ok_iff hBase hSixteen hBound, IsRow, and_iff_right hText, and_comm]
  rfl

theorem readUnsigned_eq_ok_iff (hBase : 0 < base) (hSixteen : base ≤ 16) (hBound : 0 < bound) :
    readUnsigned base bound text = .ok word ↔ IsNumeral base text word ∧ word < bound := by
  unfold readUnsigned
  split
  · rw [isNumeral_iff_of_no_plus (by simp)]
    exact iff_of_false (by simp) fun h => h.1.1 rfl
  · rw [isNumeral_plus_iff hSixteen]
    exact iff_of_false (by simp) fun h => h.1.1 rfl
  · rename_i row hRow
    rw [isNumeral_plus_iff hSixteen, readDigits_eq_ok_iff_isRow hBase hSixteen hBound]
    rintro rfl
    exact hRow rfl
  · rename_i hEmpty _ hPlus
    rw [isNumeral_iff_of_no_plus hPlus, readDigits_eq_ok_iff_isRow hBase hSixteen hBound hEmpty]

theorem IsRow.isDigit (h : IsRow base text value) : ∀ c ∈ text, ∃ digit, IsDigit base c digit := by
  obtain ⟨_, digits, hDigits, _⟩ := h
  intro c hc
  obtain ⟨index, hIndex, rfl⟩ := List.getElem_of_mem hc
  exact ⟨_, hDigits.get hIndex (hDigits.length_eq ▸ hIndex)⟩

theorem IsNumeral.isDigit (h : IsNumeral base text value) :
    ∀ c ∈ text, c = '+' ∨ ∃ digit, IsDigit base c digit := by
  obtain ⟨row, rfl | rfl, hRow⟩ := h
  · exact fun c hc => .inr (hRow.isDigit c hc)
  · intro c hc
    exact (List.mem_cons.mp hc).imp_right (hRow.isDigit c)

/-- There is no underscore in a row of digits. -/
theorem IsRow.filter_underscore (hBase : base ≤ 16) (h : IsRow base text value) :
    text.filter (· ≠ '_') = text := by
  apply List.filter_eq_self.mpr
  intro c hc
  obtain ⟨digit, hDigit⟩ := h.isDigit c hc
  have hOther : c ≠ '_' := by
    rintro rfl
    exact not_isDigit hBase (by decide) hDigit
  simpa using hOther

theorem ofDigits_append_singleton (digits : List Nat) (digit : Nat) :
    ofDigits base (digits ++ [digit]) = ofDigits base digits * base + digit := by
  rw [ofDigits, List.foldl_append]
  rfl

/-- The digits of a number have values of which the number is made. -/
theorem exists_digits_toDigits (hBase : 1 < base) (number : Nat) : ∃ digits,
    Nat.toDigits base number = digits.map Nat.digitChar ∧ (∀ digit ∈ digits, digit < base) ∧
      ofDigits base digits = number := by
  induction number using Nat.strong_induction_on with
  | _ number ih =>
      rw [Nat.toDigits_eq_if hBase]
      split_ifs with hSmall
      · exact ⟨[number], rfl, by simpa using hSmall, by simp [ofDigits]⟩
      · have hPositive : 0 < number := by omega
        obtain ⟨digits, hChars, hDigits, hValue⟩ := ih (number / base) (Nat.div_lt_self hPositive hBase)
        refine ⟨digits ++ [number % base], by rw [hChars, List.map_append, List.map_singleton], ?_, ?_⟩
        · intro digit hDigit
          rcases List.mem_append.mp hDigit with hOld | hLast
          · exact hDigits digit hOld
          · rw [List.mem_singleton.mp hLast]
            exact Nat.mod_lt _ (by omega)
        · rw [ofDigits_append_singleton, hValue, Nat.div_add_mod']

/-- The digits of a number, as they are or in capitals, are a row for it. -/
theorem isRow_toDigits (hBase : 1 < base) (number : Nat) :
    IsRow base (Nat.toDigits base number) number ∧
      IsRow base ((Nat.toDigits base number).map Char.toUpper) number := by
  obtain ⟨digits, hChars, hDigits, hValue⟩ := exists_digits_toDigits hBase number
  have hRow {f : Nat → Char} (hForm : ∀ digit ∈ digits, IsDigit base (f digit) digit) :
      AreDigits base (digits.map f) digits := by
    rw [AreDigits, List.forall₂_map_left_iff]
    exact List.forall₂_same.mpr hForm
  have hSome : Nat.toDigits base number ≠ [] := Nat.toDigits_ne_nil
  refine ⟨⟨hSome, digits, ?_, hValue⟩, by simp [hSome], digits, ?_, hValue⟩
  · rw [hChars]
    exact hRow fun digit hDigit => ⟨hDigits digit hDigit, .inl rfl⟩
  · rw [hChars, List.map_map]
    exact hRow fun digit hDigit => ⟨hDigits digit hDigit, .inr rfl⟩

end Numeral

open Numeral

/-- What words start with, and the base that it tells. -/
def wordMarks : List (List Char × Nat) := [(['0', 'x'], 16), (['0', 'X'], 16), ([], 10)]

/-- The grammar of words without the white space around them. -/
def IsWordText (text : List Char) (word : Nat) : Prop :=
  ∃ mark base numeral, (mark, base) ∈ wordMarks ∧ text = mark ++ numeral ∧
    IsNumeral base (numeral.filter (· ≠ '_')) word ∧ word < machineBound

/-- The marks and digits of the forms in which a number is written: in hexadecimal with small letters
or with capitals, and in decimal. -/
def writtenForms (word : Nat) : List (List Char × List Char) :=
  [(['0', 'x'], Nat.toDigits 16 word), (['0', 'x'], (Nat.toDigits 16 word).map Char.toUpper),
    (['0', 'X'], Nat.toDigits 16 word), (['0', 'X'], (Nat.toDigits 16 word).map Char.toUpper),
    ([], Nat.toDigits 10 word)]

theorem base_of_mem_wordMarks {mark : List Char} {base : Nat} (h : (mark, base) ∈ wordMarks) :
    0 < base ∧ base ≤ 16 := by
  have hEach : ∀ entry ∈ wordMarks, 0 < entry.2 ∧ entry.2 ≤ 16 := by decide
  exact hEach _ h

theorem exists_mark_of_splitBase (text : List Char) :
    ∃ mark, (mark, (splitBase text).1) ∈ wordMarks ∧ text = mark ++ (splitBase text).2 := by
  unfold splitBase
  split
  · exact ⟨['0', 'x'], by simp [wordMarks], rfl⟩
  · exact ⟨['0', 'X'], by simp [wordMarks], rfl⟩
  · exact ⟨[], by simp [wordMarks], rfl⟩

/-- A decimal numeral does not look like one behind a mark, since the letter of the mark is no digit. -/
theorem splitBase_of_isNumeral {text : List Char} {word : Nat}
    (h : IsNumeral 10 (text.filter (· ≠ '_')) word) : splitBase text = (10, text) := by
  have hLetter {c : Char} (hNone : digit? 16 c = none) (hPlus : c ≠ '+') (hKept : c ≠ '_') :
      c ∉ text := by
    intro hMem
    have hFiltered : c ∈ text.filter (· ≠ '_') := List.mem_filter.mpr ⟨hMem, by simpa using hKept⟩
    obtain ⟨digit, hDigit⟩ := (h.isDigit c hFiltered).resolve_left hPlus
    exact not_isDigit (by decide) hNone hDigit
  unfold splitBase
  split
  · exact absurd (by simp) (hLetter (c := 'x') (by decide) (by decide) (by decide))
  · exact absurd (by simp) (hLetter (c := 'X') (by decide) (by decide) (by decide))
  · rfl

theorem readWordText_eq_ok_iff {text : List Char} {word : Nat} :
    readWordText text = .ok word ↔ IsWordText text word := by
  have hBound : 0 < machineBound := by decide
  constructor
  · intro h
    obtain ⟨mark, hMark, hText⟩ := exists_mark_of_splitBase text
    obtain ⟨hBase, hSixteen⟩ := base_of_mem_wordMarks hMark
    obtain ⟨hNumeral, hWord⟩ := (readUnsigned_eq_ok_iff hBase hSixteen hBound).mp h
    exact ⟨mark, _, _, hMark, hText, hNumeral, hWord⟩
  · rintro ⟨mark, base, numeral, hMark, rfl, hNumeral, hWord⟩
    obtain ⟨hBase, hSixteen⟩ := base_of_mem_wordMarks hMark
    have hSplit : splitBase (mark ++ numeral) = (base, numeral) := by
      have hCases : (mark, base) = (['0', 'x'], 16) ∨ (mark, base) = (['0', 'X'], 16) ∨
          (mark, base) = ([], 10) := by simpa [wordMarks] using hMark
      rcases hCases with hMark | hMark | hMark <;> cases hMark
      · rfl
      · rfl
      · exact splitBase_of_isNumeral hNumeral
    rw [readWordText, hSplit]
    exact (readUnsigned_eq_ok_iff hBase hSixteen hBound).mpr ⟨hNumeral, hWord⟩

theorem parseWord_eq_ok_iff {text : String} {word : Nat} :
    parseWord text = .ok word ↔ IsWordText (Blank.trim text.toList) word := by
  rw [← readWordText_eq_ok_iff, parseWord]
  cases readWordText (Blank.trim text.toList) with
  | ok found => simp [Except.mapError]
  | error cause => simp [Except.mapError]

theorem parseWord_fails_iff {text : String} :
    (∃ cause, parseWord text = .error ⟨String.ofList (Blank.trim text.toList), cause⟩) ↔
      ∀ word, ¬ IsWordText (Blank.trim text.toList) word := by
  constructor
  · rintro ⟨cause, hCause⟩ word hWord
    rw [parseWord_eq_ok_iff.mpr hWord] at hCause
    cases hCause
  · intro hNone
    cases h : readWordText (Blank.trim text.toList) with
    | ok word => exact absurd (readWordText_eq_ok_iff.mp h) (hNone word)
    | error cause =>
        refine ⟨cause, ?_⟩
        rw [parseWord, h]
        rfl

theorem isBlank_of_digit?_eq_some {c : Char} {digit : Nat} (h : digit? 16 c = some digit) :
    Blank.isBlank c = false := by
  have hEach : ∀ code < 128, digit? 16 (Char.ofNat code) ≠ none →
      Blank.isBlank (Char.ofNat code) = false := by decide +kernel
  have hCode := hEach c.toNat (toNat_lt_of_digit?_sixteen h)
  rw [Char.ofNat_toNat] at hCode
  exact hCode (by simp [h])

theorem isRow_of_mem_writtenForms {word : Nat} {mark digits : List Char}
    (h : (mark, digits) ∈ writtenForms word) :
    ∃ base, (mark, base) ∈ wordMarks ∧ IsRow base digits word := by
  have hHex := isRow_toDigits (show 1 < 16 by decide) word
  have hDecimal := isRow_toDigits (show 1 < 10 by decide) word
  simp only [writtenForms, List.mem_cons, List.not_mem_nil, or_false] at h
  rcases h with h | h | h | h | h <;> cases h
  · exact ⟨16, by simp [wordMarks], hHex.1⟩
  · exact ⟨16, by simp [wordMarks], hHex.2⟩
  · exact ⟨16, by simp [wordMarks], hHex.1⟩
  · exact ⟨16, by simp [wordMarks], hHex.2⟩
  · exact ⟨10, by simp [wordMarks], hDecimal.1⟩

/-- Neither marks nor digits nor underscores are white space. -/
theorem isTrimmed_of_isRow {mark numeral : List Char} {base word : Nat}
    (hMark : (mark, base) ∈ wordMarks) (hRow : IsRow base (numeral.filter (· ≠ '_')) word) :
    Blank.IsTrimmed (mark ++ numeral) := by
  apply Blank.isTrimmed_of_forall
  intro c hc
  rcases List.mem_append.mp hc with hMem | hMem
  · have hEach : ∀ entry ∈ wordMarks, (entry.1.all fun c => !Blank.isBlank c) = true := by decide
    simpa using List.all_eq_true.mp (hEach _ hMark) c hMem
  · by_cases hUnderscore : c = '_'
    · subst hUnderscore
      decide
    · have hKept : c ∈ numeral.filter (· ≠ '_') := List.mem_filter.mpr ⟨hMem, by simpa using hUnderscore⟩
      obtain ⟨digit, hDigit, hForm⟩ := hRow.isDigit c hKept
      have hSixteen := (base_of_mem_wordMarks hMark).2
      exact isBlank_of_digit?_eq_some (digit?_sixteen_of_isDigit ⟨by omega, hForm⟩)

theorem parseWord_writtenForm {word : Nat} (hWord : word < machineBound) {mark digits numeral : List Char}
    (hForm : (mark, digits) ∈ writtenForms word) (hNumeral : numeral.filter (· ≠ '_') = digits)
    {before after : List Char} (hBefore : ∀ c ∈ before, Blank.isBlank c)
    (hAfter : ∀ c ∈ after, Blank.isBlank c) :
    parseWord (String.ofList (before ++ (mark ++ numeral) ++ after)) = .ok word := by
  obtain ⟨base, hMark, hRow⟩ := isRow_of_mem_writtenForms hForm
  rw [← hNumeral] at hRow
  have hText : IsWordText (mark ++ numeral) word :=
    ⟨mark, base, numeral, hMark, rfl, ⟨_, .inl rfl, hRow⟩, hWord⟩
  have hTrim := Blank.trim_append hBefore hAfter (isTrimmed_of_isRow hMark hRow)
  rw [parseWord_eq_ok_iff, String.toList_ofList, hTrim]
  exact hText

/-- A text is read as a word exactly if the grammar gives this word for what trimming leaves of it. Any
other text is refused with a fault that names what trimming leaves. So each form in which a number is
written is read as this number, with underscores among the digits and white space around as well. -/
theorem words_are_read_by_grammar :
    (∀ text word, parseWord text = .ok word ↔ IsWordText (Blank.trim text.toList) word) ∧
    (∀ text, (∃ cause, parseWord text = .error ⟨String.ofList (Blank.trim text.toList), cause⟩) ↔
      ∀ word, ¬ IsWordText (Blank.trim text.toList) word) ∧
    ∀ word < machineBound, ∀ mark digits, (mark, digits) ∈ writtenForms word →
      parseWord (String.ofList (mark ++ digits)) = .ok word ∧
      ∀ numeral, numeral.filter (· ≠ '_') = digits → ∀ before after,
        (∀ c ∈ before, Blank.isBlank c) → (∀ c ∈ after, Blank.isBlank c) →
          parseWord (String.ofList (before ++ (mark ++ numeral) ++ after)) = .ok word := by
  refine ⟨fun _ _ => parseWord_eq_ok_iff, fun _ => parseWord_fails_iff, ?_⟩
  intro word hWord mark digits hForm
  obtain ⟨base, hMark, hRow⟩ := isRow_of_mem_writtenForms hForm
  have hDigits := hRow.filter_underscore (base_of_mem_wordMarks hMark).2
  have hPlain := parseWord_writtenForm hWord hForm hDigits (List.forall_mem_nil _) (List.forall_mem_nil _)
  rw [List.nil_append, List.append_nil] at hPlain
  refine ⟨hPlain, ?_⟩
  intro numeral hNumeral before after hBefore hAfter
  exact parseWord_writtenForm hWord hForm hNumeral hBefore hAfter

/-- A number in capitals with underscores on all sides of its digits, between white space of which some is
not ASCII, and the first number that is no word any more. -/
theorem words_are_read_by_grammar_spaced :
    let numeral := ['_', 'D', 'E', 'A', 'D', '_', 'B', 'E', 'E', 'F', '_']
    0xDEADBEEF < machineBound ∧
    (['0', 'x'], (Nat.toDigits 16 0xDEADBEEF).map Char.toUpper) ∈ writtenForms 0xDEADBEEF ∧
    numeral.filter (· ≠ '_') = (Nat.toDigits 16 0xDEADBEEF).map Char.toUpper ∧
    (∀ c ∈ [Char.ofNat 0xA0, ' '], Blank.isBlank c) ∧ (∀ c ∈ ['\t'], Blank.isBlank c) ∧
    parseWord (String.ofList ([Char.ofNat 0xA0, ' '] ++ (['0', 'x'] ++ numeral) ++ ['\t'])) =
      .ok 0xDEADBEEF ∧
    ∀ word, ¬ IsWordText (Blank.trim "18446744073709551616".toList) word := by
  obtain ⟨_, hFails, hReads⟩ := words_are_read_by_grammar
  have hWord : 0xDEADBEEF < machineBound := by decide
  have hForm : (['0', 'x'], (Nat.toDigits 16 0xDEADBEEF).map Char.toUpper) ∈ writtenForms 0xDEADBEEF := by
    simp [writtenForms]
  have hNumeral : ['_', 'D', 'E', 'A', 'D', '_', 'B', 'E', 'E', 'F', '_'].filter (· ≠ '_') =
      (Nat.toDigits 16 0xDEADBEEF).map Char.toUpper := by decide
  have hBefore : ∀ c ∈ [Char.ofNat 0xA0, ' '], Blank.isBlank c := List.all_eq_true.mp (by decide)
  have hAfter : ∀ c ∈ ['\t'], Blank.isBlank c := List.all_eq_true.mp (by decide)
  refine ⟨hWord, hForm, hNumeral, hBefore, hAfter, ?_, ?_⟩
  · exact (hReads _ hWord _ _ hForm).2 _ hNumeral _ _ hBefore hAfter
  · exact (hFails _).mp ⟨.tooLarge, by decide +kernel⟩

end HeapInspector
