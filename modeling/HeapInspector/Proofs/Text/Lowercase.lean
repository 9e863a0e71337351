import HeapInspector.Text.Lowercase

/-! Lower-casing a second time changes nothing. A character that lower-casing gives has no lower-case form
but itself, and it is not one of the two special characters, so that what stands around it does not
matter. -/
namespace HeapInspector.Lowercase

variable {run other : CaseRun} {c d : Char} {text : List Char}

/-- The lower-case forms that a run gives, which are in steps as wide as its own. -/
def CaseRun.forms (run : CaseRun) : CaseRun :=
  ⟨(run.first + run.shift).toNat, (run.last + run.shift).toNat, run.step, 0⟩

/-- Whether no character is in both runs: one ends before the other begins, or they alternate. -/
def CaseRun.isApart (run other : CaseRun) : Bool :=
  run.last.blt other.first || other.last.blt run.first ||
    (run.step == 2 || run.first == run.last) && other.step == 2 && (run.first + other.first) % 2 == 1

/-- The capital I with a dot above, which no run of the table holds. -/
def dotted : CaseRun := ⟨0x130, 0x130, 1, 0⟩

/-- Whether every form of a run is a character: none is negative, a surrogate or too large. -/
def CaseRun.isValid (run : CaseRun) : Bool :=
  0 ≤ run.first + run.shift && (run.forms.last.blt 0xD800 ||
    Nat.blt 0xDFFF run.forms.first && run.forms.last.blt 0x110000)

/-- No character that has a lower-case form of its own is the form of another one. -/
theorem forms_apart : (caseRuns.map CaseRun.forms).all fun run => (dotted :: caseRuns).all run.isApart := by
  decide +kernel

theorem caseRuns_valid : caseRuns.all CaseRun.isValid := by decide +kernel

/-- Of the runs only that of the ASCII capitals begins below the other characters. -/
theorem caseRuns_ascii : ∀ run ∈ caseRuns, run = ⟨0x41, 0x5A, 1, 32⟩ ∨ 0x80 ≤ run.first := by
  decide +kernel

theorem holds_iff : run.holds c = true ↔
    run.first ≤ c.toNat ∧ c.toNat ≤ run.last ∧ (c.toNat - run.first) % run.step = 0 := by
  simp [CaseRun.holds, and_assoc]

/-- No run holds the character. -/
def IsSettled (c : Char) : Prop := ∀ run ∈ dotted :: caseRuns, run.holds c = false

instance : DecidablePred IsSettled := fun c =>
  inferInstanceAs (Decidable (∀ run ∈ dotted :: caseRuns, run.holds c = false))

theorem holds_eq_false_of_isApart (h : run.isApart other = true) (hHolds : run.holds c = true) :
    other.holds c = false := by
  rw [Bool.eq_false_iff, Ne, holds_iff]
  rintro ⟨hFirst, hLast, hStep⟩
  obtain ⟨hFrom, hTo, hSteps⟩ := holds_iff.mp hHolds
  simp only [CaseRun.isApart, Bool.or_eq_true, Bool.and_eq_true, Nat.blt_eq, beq_iff_eq] at h
  rcases h with (hBefore | hBehind) | ⟨⟨hSingle, hOther⟩, hOdd⟩
  · omega
  · omega
  · rw [hOther] at hStep
    rcases hSingle with hTwo | hOne
    · rw [hTwo] at hSteps
      omega
    · omega

/-- The form that a run gives for a character is one of its forms. -/
theorem holds_forms (hRun : run ∈ caseRuns) (h : run.holds c = true) :
    run.forms.holds (Char.ofNat (c.toNat + run.shift).toNat) = true := by
  obtain ⟨hFrom, hTo, hSteps⟩ := holds_iff.mp h
  have hValid := List.all_eq_true.mp caseRuns_valid run hRun
  simp only [CaseRun.isValid, CaseRun.forms, Bool.and_eq_true, Bool.or_eq_true, decide_eq_true_eq,
    Nat.blt_eq] at hValid
  have hChar : (c.toNat + run.shift).toNat.isValidChar := by
    rw [Nat.isValidChar]
    omega
  have hNat : (Char.ofNat (c.toNat + run.shift).toNat).toNat = (c.toNat + run.shift).toNat := by
    rw [Char.ofNat, dif_pos hChar]
    rfl
  have hSame : (c.toNat + run.shift).toNat - (run.first + run.shift).toNat = c.toNat - run.first := by
    omega
  simp only [holds_iff, hNat, CaseRun.forms, hSame]
  exact ⟨by omega, by omega, hSteps⟩

theorem isSettled_form (hRun : run ∈ caseRuns) (h : run.holds c = true) :
    IsSettled (Char.ofNat (c.toNat + run.shift).toNat) := by
  intro other hOther
  have hApart := List.all_eq_true.mp forms_apart run.forms (List.mem_map_of_mem hRun)
  exact holds_eq_false_of_isApart (List.all_eq_true.mp hApart other hOther) (holds_forms hRun h)

/-- An ASCII character is settled if it is not a capital. -/
theorem isSettled_of_ascii (hAscii : c.toNat < 0x80) (h : ¬ ('A' ≤ c ∧ c ≤ 'Z')) : IsSettled c := by
  intro run hRun
  rw [Bool.eq_false_iff, Ne, holds_iff]
  rintro ⟨hFirst, hLast, _⟩
  rcases List.mem_cons.mp hRun with rfl | hRun
  · have hDotted : 0x130 ≤ c.toNat := hFirst
    omega
  · rcases caseRuns_ascii run hRun with rfl | hBehind
    · exact h ⟨hFirst, hLast⟩
    · omega

theorem isSettled_lowerSigma (before after : List Char) : IsSettled (lowerSigma before after) := by
  rw [lowerSigma]
  split
  · decide +kernel
  · decide +kernel

/-- What lower-casing gives for a character is settled. -/
theorem isSettled_of_mem_lowerChar (h : d ∈ lowerChar c) : IsSettled d := by
  rw [lowerChar] at h
  split at h
  case isTrue hAscii =>
    split at h
    case isTrue hCapital =>
      have hRun : (⟨0x41, 0x5A, 1, 32⟩ : CaseRun) ∈ caseRuns := List.mem_cons_self
      have hForm := isSettled_form hRun (holds_iff.mpr ⟨hCapital.1, hCapital.2, Nat.mod_one _⟩)
      rwa [List.mem_singleton.mp h]
    case isFalse hOther =>
      rw [List.mem_singleton.mp h]
      exact isSettled_of_ascii hAscii hOther
  case isFalse =>
    split at h
    case isTrue =>
      have hLetter : IsSettled 'i' := by decide +kernel
      have hDot : IsSettled (Char.ofNat 0x307) := by decide +kernel
      rcases List.mem_cons.mp h with rfl | h
      · exact hLetter
      · rwa [List.mem_singleton.mp h]
    case isFalse hPlain =>
      split at h
      case h_1 run hFound =>
        have hHolds : run.holds c = true := by simpa using List.find?_some hFound
        rw [List.mem_singleton.mp h]
        exact isSettled_form (List.mem_of_find?_eq_some hFound) hHolds
      case h_2 hNone =>
        rw [List.mem_singleton.mp h]
        intro run hRun
        rcases List.mem_cons.mp hRun with rfl | hRun
        · rw [Bool.eq_false_iff, Ne, holds_iff]
          rintro ⟨hFirst, hLast, _⟩
          exact hPlain (Nat.le_antisymm hLast hFirst)
        · exact Bool.eq_false_iff.mpr (List.find?_eq_none.mp hNone run hRun)

/-- Lower-casing leaves a settled character as it is. -/
theorem IsSettled.lowerChar_eq (h : IsSettled c) : lowerChar c = [c] := by
  have hCapital : ¬ ('A' ≤ c ∧ c ≤ 'Z') := fun hBoth =>
    Bool.eq_false_iff.mp (h ⟨0x41, 0x5A, 1, 32⟩ (by decide))
      (holds_iff.mpr ⟨hBoth.1, hBoth.2, Nat.mod_one _⟩)
  have hDotted : c.toNat ≠ 0x130 := fun hSame =>
    Bool.eq_false_iff.mp (h dotted List.mem_cons_self)
      (holds_iff.mpr ⟨Nat.le_of_eq hSame.symm, Nat.le_of_eq hSame, Nat.mod_one _⟩)
  have hNone : caseRuns.find? (·.holds c) = none :=
    List.find?_eq_none.mpr fun run hRun => Bool.eq_false_iff.mp (h run (List.mem_cons_of_mem _ hRun))
  rw [lowerChar, if_neg hCapital, if_neg hDotted, hNone]
  split <;> rfl

theorem IsSettled.ne_capitalSigma (h : IsSettled c) : c ≠ capitalSigma := by
  rintro rfl
  exact absurd (h ⟨0x3A3, 0x3AB, 1, 32⟩ (by decide +kernel)) (by decide)

theorem isSettled_of_mem_lowerFrom {before : List Char} (h : d ∈ lowerFrom before text) :
    IsSettled d := by
  induction text generalizing before with
  | nil => cases h
  | cons c rest ih =>
      rw [lowerFrom, List.mem_append] at h
      rcases h with hFirst | hRest
      · split at hFirst
        · rw [List.mem_singleton.mp hFirst]
          exact isSettled_lowerSigma before rest
        · exact isSettled_of_mem_lowerChar hFirst
      · exact ih hRest

theorem isSettled_of_mem_lower (h : d ∈ lower text) : IsSettled d := isSettled_of_mem_lowerFrom h

theorem lowerFrom_of_isSettled {before : List Char} (h : ∀ c ∈ text, IsSettled c) :
    lowerFrom before text = text := by
  induction text generalizing before with
  | nil => rfl
  | cons c rest ih =>
      obtain ⟨hFirst, hRest⟩ := List.forall_mem_cons.mp h
      rw [lowerFrom, if_neg hFirst.ne_capitalSigma, hFirst.lowerChar_eq, ih hRest]
      rfl

/-- A text of settled characters is its own lower-case form. -/
theorem lower_of_isSettled (h : ∀ c ∈ text, IsSettled c) : lower text = text :=
  lowerFrom_of_isSettled h

theorem lower_lower (text : List Char) : lower (lower text) = lower text :=
  lower_of_isSettled fun _ => isSettled_of_mem_lower

end HeapInspector.Lowercase
