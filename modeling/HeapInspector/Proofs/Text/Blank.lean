import HeapInspector.Text.Blank
import Mathlib.Data.List.TakeWhile

/-! Texts without the white space around them. What trimming leaves is the one part of a text that has
no white space at its ends and nothing else around it. -/
namespace HeapInspector.Blank

variable {text before core after : List Char}

/-- A text with no white space at its two ends. -/
structure IsTrimmed (text : List Char) : Prop where
  head : ∀ c ∈ text.head?, isBlank c = false
  last : ∀ c ∈ text.getLast?, isBlank c = false

theorem isTrimmed_of_forall (h : ∀ c ∈ text, isBlank c = false) : IsTrimmed text where
  head c hc := h c (List.mem_of_mem_head? hc)
  last c hc := h c (List.mem_of_mem_getLast? hc)

theorem trimStart_append (h : ∀ c ∈ before, isBlank c) (rest : List Char) :
    trimStart (before ++ rest) = trimStart rest :=
  List.dropWhile_append_of_pos h

theorem trimStart_of_blank (h : ∀ c ∈ text, isBlank c) : trimStart text = [] :=
  List.dropWhile_eq_nil_iff.mpr h

theorem trimStart_eq_self (h : ∀ c ∈ text.head?, isBlank c = false) : trimStart text = text := by
  cases text with
  | nil => rfl
  | cons c rest => exact List.dropWhile_cons_of_neg (by simp [h c rfl])

theorem head_trimStart (text : List Char) : ∀ c ∈ (trimStart text).head?, isBlank c = false := by
  intro c hc
  have hFirst := List.head?_dropWhile_not isBlank text
  rw [show (text.dropWhile isBlank).head? = some c from hc] at hFirst
  simpa using hFirst

theorem exists_trimStart (text : List Char) :
    ∃ before, (∀ c ∈ before, isBlank c) ∧ text = before ++ trimStart text :=
  ⟨text.takeWhile isBlank, fun _ hc => List.mem_takeWhile_imp hc, List.takeWhile_append_dropWhile.symm⟩

/-- Trimming the end is trimming the start of the text read backwards. -/
theorem trimEnd_eq (text : List Char) : trimEnd text = (trimStart text.reverse).reverse := rfl

theorem trim_append (hBefore : ∀ c ∈ before, isBlank c) (hAfter : ∀ c ∈ after, isBlank c)
    (hCore : IsTrimmed core) : trim (before ++ core ++ after) = core := by
  have hBackwards : ∀ c ∈ after.reverse, isBlank c := by simpa using hAfter
  have hLast : trimStart core.reverse = core.reverse :=
    trimStart_eq_self (by simpa using hCore.last)
  have hEnd : trimEnd (core ++ after) = core := by
    rw [trimEnd_eq, List.reverse_append, trimStart_append hBackwards, hLast, List.reverse_reverse]
  rw [List.append_assoc, trim, trimStart_append hBefore]
  cases core with
  | nil =>
      -- All of the text is white space, and its start is trimmed down to nothing.
      rw [List.nil_append, trimStart_of_blank hAfter]
      rfl
  | cons c rest =>
      have hStart : trimStart (c :: rest ++ after) = c :: rest ++ after :=
        trimStart_eq_self fun d hd => hCore.head d hd
      rw [hStart, hEnd]

theorem isTrimmed_trim (text : List Char) : IsTrimmed (trim text) where
  head := by
    obtain ⟨after, hAfter, hText⟩ := exists_trimStart (trimStart text).reverse
    have hSplit : trimStart text = trim text ++ after.reverse := by
      rw [trim, trimEnd_eq, ← List.reverse_append, ← hText, List.reverse_reverse]
    intro c hc
    apply head_trimStart text
    rw [hSplit, List.head?_append]
    simp [show (trim text).head? = some c from hc]
  last := by
    rw [trim, trimEnd_eq, List.getLast?_reverse]
    exact head_trimStart _

theorem exists_trim (text : List Char) : ∃ before after, (∀ c ∈ before, isBlank c) ∧
    (∀ c ∈ after, isBlank c) ∧ text = before ++ trim text ++ after := by
  obtain ⟨before, hBefore, hText⟩ := exists_trimStart text
  obtain ⟨after, hAfter, hRest⟩ := exists_trimStart (trimStart text).reverse
  refine ⟨before, after.reverse, hBefore, by simpa using hAfter, ?_⟩
  rw [trim, trimEnd_eq, List.append_assoc, ← List.reverse_append, ← hRest, List.reverse_reverse, ← hText]

theorem trim_eq_iff : trim text = core ↔ IsTrimmed core ∧ ∃ before after,
    (∀ c ∈ before, isBlank c) ∧ (∀ c ∈ after, isBlank c) ∧ text = before ++ core ++ after := by
  constructor
  · rintro rfl
    exact ⟨isTrimmed_trim text, exists_trim text⟩
  · rintro ⟨hCore, before, after, hBefore, hAfter, rfl⟩
    exact trim_append hBefore hAfter hCore

theorem IsTrimmed.trim_eq (h : IsTrimmed text) : trim text = text :=
  trim_eq_iff.mpr ⟨h, [], [], by simp, by simp, by simp⟩

theorem trim_trim (text : List Char) : trim (trim text) = trim text := (isTrimmed_trim text).trim_eq

/-- A text that starts with no white space starts in the same way when it is trimmed. -/
theorem head?_trim {c : Char} (h : isBlank c = false) (rest : List Char) :
    (trim (c :: rest)).head? = some c := by
  obtain ⟨before, after, hBefore, hAfter, hText⟩ := exists_trim (c :: rest)
  have hNoneBefore : before = [] := by
    cases before with
    | nil => rfl
    | cons d more =>
        obtain ⟨rfl, _⟩ := List.cons.inj hText
        simp [hBefore c List.mem_cons_self] at h
  rw [hNoneBefore, List.nil_append] at hText
  cases hTrim : trim (c :: rest) with
  | nil =>
      -- All of the text would be white space.
      rw [hTrim, List.nil_append] at hText
      simp [hAfter c (hText ▸ List.mem_cons_self)] at h
  | cons d more =>
      rw [hTrim] at hText
      rw [(List.cons.inj hText).1, List.head?_cons]

end HeapInspector.Blank
