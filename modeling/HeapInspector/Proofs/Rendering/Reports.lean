import HeapInspector.Proofs.Rendering.Returns
import HeapInspector.Proofs.Results.Rejections
import HeapInspector.Report

/-! Reports on words. Whatever goes wrong behind a description, of its value, of its fields or of the
objects that its fields reference, finds a place in the report, so that describing a word is all that can
fail. The reports of a list stand beside each other: what fails leaves a line on the other channel. -/
namespace HeapInspector

namespace Inquiry

variable {α β : Type} {host : Host} {i : Inquiry α}

/-- No host brings the inquiry to an error: it ends in a value, or in a defect. -/
def NeverFails (i : Inquiry α) : Prop :=
  ∀ host past e, (i.run host past).outcome ≠ .error (.error e)

namespace NeverFails

theorem pure (value : α) : (Pure.pure value : Inquiry α).NeverFails := nofun

theorem bind {next : α → Inquiry β} (h : i.NeverFails) (hNext : ∀ value, (next value).NeverFails) :
    (i >>= next).NeverFails := by
  intro host past e hFails
  rcases failure_of_bind hFails with hFirst | ⟨value, later, _, hRest⟩
  · exact h host past e hFirst
  · exact hNext value host later e hRest

theorem forEach {f : α → Inquiry β} (h : ∀ a, (f a).NeverFails) (list : List α) :
    (Inquiry.forEach f list).NeverFails := by
  induction list with
  | nil => exact .pure []
  | cons a rest ih => exact (h a).bind fun _ => ih.bind fun _ => .pure _

end NeverFails

/-- What an attempt comes to tells what was attempted. -/
theorem outcome_of_attempt {past : List Request} {result : Except Error α}
    (h : (i.attempt.run host past).outcome = .ok result) :
    (i.run host past).outcome = result.mapError Failure.error := by
  induction i generalizing past with
  | done value =>
      cases h
      rfl
  | fail failure =>
      cases failure with
      | error e =>
          cases h
          rfl
      | defect d => cases h
  | read request resume ih => exact ih (host past request) h

/-- Errors become values, and nothing else is left that could be one. -/
theorem attempt_neverFails (i : Inquiry α) : i.attempt.NeverFails := by
  intro host past e h
  induction i generalizing past with
  | done value => cases h
  | fail failure =>
      cases failure with
      | error found => cases h
      | defect d => cases h
  | read request resume ih => exact ih (host past request) (request :: past) h

theorem Yields.of_attempt {value : α} (h : i.attempt.Yields host (.ok value)) : i.Yields host value :=
  fun past => outcome_of_attempt (h past)

theorem Fails.of_attempt {e : Error} (h : i.attempt.Yields host (.error e)) : i.Fails host e :=
  fun past => outcome_of_attempt (h past)

/-- The value that the host brings the inquiry to, if it is brought to one. -/
def valueOver? (host : Host) (i : Inquiry α) : Option α :=
  match (i.run host []).outcome with
  | .ok value => some value
  | .error _ => none

/-- The error that the host brings the inquiry to, if it is brought to one. -/
def errorOver? (host : Host) (i : Inquiry α) : Option Error :=
  match (i.run host []).outcome with
  | .error (.error e) => some e
  | _ => none

theorem Yields.over {value : α} (h : i.Yields host value) :
    i.valueOver? host = some value ∧ i.errorOver? host = none := by
  simp only [valueOver?, errorOver?, h [], and_self]

theorem Fails.over {e : Error} (h : i.Fails host e) :
    i.valueOver? host = none ∧ i.errorOver? host = some e := by
  simp only [valueOver?, errorOver?, h [], and_self]

end Inquiry

open Inquiry

theorem Fields.field_neverFails (fields : Fields) (index : Nat) :
    (fields.field index).NeverFails := by
  apply (attempt_neverFails (fields.value index)).bind
  intro result
  cases result with
  | ok value => exact .pure _
  | error e => exact .pure _

namespace ObjectDescription

variable (d : ObjectDescription)

theorem renderLine_neverFails : d.renderLine.NeverFails := by
  apply (attempt_neverFails d.value).bind
  intro result
  match result with
  | .ok (some value) => exact .pure _
  | .ok none => exact .pure _
  | .error e => exact .pure _

theorem renderFieldLines_neverFails {expand : FieldValue → Inquiry Rendering} (level : Nat)
    (hExpand : ∀ value, (expand value).NeverFails) : (d.renderFieldLines expand level).NeverFails := by
  apply (attempt_neverFails d.fields).bind
  intro result
  cases result with
  | error e => exact .pure _
  | ok fields =>
      have hLine (index : Nat) :
          (do (← fields.field index).renderLine expand level : Inquiry Rendering).NeverFails :=
        (fields.field_neverFails index).bind fun field => (hExpand field.value).bind fun _ => .pure _
      exact (NeverFails.forEach hLine _).bind fun _ => .pure _

theorem snapshot_neverFails : d.snapshot.NeverFails := by
  apply (attempt_neverFails d.value).bind
  intro value
  apply (attempt_neverFails d.fields).bind
  intro located
  cases located with
  | error e => exact .pure _
  | ok fields =>
      have hAll : fields.all.NeverFails := .forEach fields.field_neverFails _
      exact hAll.bind fun _ => .pure _

variable {d}

theorem snapshot_alwaysReturns (h : d.decoder.NeverStops d.object) : d.snapshot.AlwaysReturns := by
  apply h.value.attempt.bind
  intro value _
  apply NeverStops.attempt_bind h.fields
  · intro fields hFields
    have hAll : fields.all.AlwaysReturns := by
      apply AlwaysReturns.forEach
      intro index hMem
      exact Fields.field_alwaysReturns (h.field fields hFields index (List.mem_range.mp hMem))
    exact hAll.bind fun _ _ => .pure _
  · intro e
    exact .pure _

end ObjectDescription

namespace Introspector

variable {i : Introspector} {host : Host} {format : ReportFormat} {depth word : Nat} {words : List Nat}

/-- Not even an object that cannot be described makes the object fail that references it. -/
theorem renderFields_neverFails (depth level : Nat) (d : ObjectDescription) :
    (i.renderFields depth level d).NeverFails := by
  induction depth generalizing level d with
  | zero => exact d.renderFieldLines_neverFails level fun _ => .pure _
  | succ depth ih =>
      cases depth with
      | zero => exact d.renderFieldLines_neverFails level fun _ => .pure _
      | succ depth =>
          apply d.renderFieldLines_neverFails level
          intro value
          split
          · rename_i address _
            apply (attempt_neverFails (i.describeObject address)).bind
            intro result
            cases result with
            | ok nested =>
                exact nested.renderLine_neverFails.bind fun _ =>
                  (ih (level + 1) nested).bind fun _ => .pure _
            | error e => exact .pure _
          · exact .pure _

theorem render_neverFails (depth : Nat) (description : Description) :
    (i.render depth description).NeverFails := by
  cases description with
  | null => exact .pure _
  | smallInt value => exact .pure _
  | object d =>
      apply d.renderLine_neverFails.bind
      intro line
      split
      · exact .pure _
      · exact (renderFields_neverFails depth 1 d).bind fun _ => .pure _

theorem report_neverFails (format : ReportFormat) (depth : Nat) (description : Description) :
    (i.report format depth description).NeverFails := by
  cases format with
  | text => exact (render_neverFails depth description).bind fun _ => .pure _
  | json =>
      have hSnapshot : description.snapshot.NeverFails := by
        cases description with
        | null => exact .pure _
        | smallInt value => exact .pure _
        | object d => exact d.snapshot_neverFails.bind fun _ => .pure _
      exact hSnapshot.bind fun _ => .pure _

/-- A word has no report just when it has no description, and for the same reason. -/
theorem reportWord_fails_iff {e : Error} :
    (i.reportWord format depth word).Fails host e ↔ (i.describe word).Fails host e := by
  constructor
  · intro h past
    rcases failure_of_bind (h past) with hDescribe | ⟨description, later, _, hReport⟩
    · exact hDescribe
    · exact absurd hReport (report_neverFails format depth description host later e)
  · exact Fails.bind

section Promises

variable (hRegistry : i.registry.NeverStops)

include hRegistry

theorem report_alwaysReturns (format : ReportFormat) (depth : Nat) {description : Description}
    (h : (i.describe word).MayReturn description) :
    (i.report format depth description).AlwaysReturns := by
  cases format with
  | text => exact (render_alwaysReturns hRegistry depth h).bind fun _ _ => .pure _
  | json =>
      have hSnapshot : description.snapshot.AlwaysReturns := by
        cases description with
        | null => exact .pure _
        | smallInt value => exact .pure _
        | object d =>
            have hNever := neverStops_of_describe hRegistry h
            exact (ObjectDescription.snapshot_alwaysReturns hNever).bind fun _ _ => .pure _
      exact hSnapshot.bind fun _ _ => .pure _

theorem reportWord_neverStops : (i.reportWord format depth word).NeverStops := by
  intro host past defect hStops
  rcases failure_of_bind hStops with hDescribe | ⟨description, later, hReturn, hReport⟩
  · exact (i.meets_describe Conduct.payloads_allows word).neverStops host past defect hDescribe
  · have hReturns := report_alwaysReturns hRegistry format depth ⟨host, past, hReturn⟩
    obtain ⟨text, hText⟩ := hReturns host later
    rw [hText] at hReport
    cases hReport

theorem reportWords_alwaysReturns : (i.reportWords format depth words).AlwaysReturns := by
  induction words with
  | nil => exact .pure _
  | cons word rest ih =>
      apply (reportWord_neverStops hRegistry).attempt.bind
      intro result _
      exact ih.bind fun _ _ => .pure _

end Promises

/-- What reporting on words comes to, told word by word: the reports in their order, the reasons in theirs,
and whether there is a description of every word. -/
structure Accounts (i : Introspector) (host : Host) (format : ReportFormat) (depth : Nat)
    (words : List Nat) (reported : ReportedWords) : Prop where
  out : reported.output.out = String.join
    (words.filterMap fun word => (i.reportWord format depth word).valueOver? host)
  err : reported.output.err = String.join (words.filterMap fun word =>
    ((i.describe word).errorOver? host).map fun e => Numeral.hex word ++ ": " ++ e.message ++ "\n")
  succeeded : reported.succeeded = true ↔
    ∀ word ∈ words, ∃ description, (i.describe word).Yields host description

namespace Accounts

variable {rest : List Nat} {others : ReportedWords}

/-- A word that is described adds its report in front. -/
theorem described (h : i.Accounts host format depth rest others) {text : String}
    {description : Description} (hText : (i.reportWord format depth word).Yields host text)
    (hDescribe : (i.describe word).Yields host description) :
    i.Accounts host format depth (word :: rest)
      ⟨true && others.succeeded, .print text ++ others.output⟩ where
  out := by
    simp only [List.filterMap_cons, hText.over.1, String.join_cons]
    rw [← h.out]
    rfl
  err := by
    simp only [List.filterMap_cons, hDescribe.over.2, Option.map_none]
    rw [← h.err]
    exact String.empty_append
  succeeded := by
    rw [Bool.true_and, h.succeeded, List.forall_mem_cons]
    exact ⟨fun hRest => ⟨⟨description, hDescribe⟩, hRest⟩, And.right⟩

/-- A word that is not described adds its line in front, and nothing else. -/
theorem refused (h : i.Accounts host format depth rest others) {e : Error}
    (hFails : (i.reportWord format depth word).Fails host e)
    (hDescribe : (i.describe word).Fails host e) :
    i.Accounts host format depth (word :: rest)
      ⟨false && others.succeeded, .complain (Numeral.hex word ++ ": " ++ e.message) ++ others.output⟩ where
  out := by
    simp only [List.filterMap_cons, hFails.over.1]
    rw [← h.out]
    exact String.empty_append
  err := by
    simp only [List.filterMap_cons, hDescribe.over.2, Option.map_some, String.join_cons]
    rw [← h.err]
    rfl
  succeeded := by
    rw [Bool.false_and, List.forall_mem_cons]
    refine ⟨nofun, ?_⟩
    rintro ⟨⟨description, hYields⟩, _⟩
    exact absurd hDescribe (hYields.not_fails e)

end Accounts

variable {answer : Request → Response}

theorem accounts_of_yields {reported : ReportedWords}
    (h : (i.reportWords format depth words).Yields (.still answer) reported) :
    i.Accounts (.still answer) format depth words reported := by
  induction words generalizing reported with
  | nil =>
      obtain rfl := (Yields.pure _).unique h
      exact ⟨rfl, rfl, by simp⟩
  | cons word rest ih =>
      obtain ⟨result, hResult, hRest⟩ := exists_yields_of_bind h
      obtain ⟨others, hOthers, hWhole⟩ := exists_yields_of_bind hRest
      obtain rfl := (Yields.pure _).unique hWhole
      cases result with
      | ok text =>
          have hText := Yields.of_attempt hResult
          obtain ⟨description, hDescribe, _⟩ := exists_yields_of_bind hText
          exact (ih hOthers).described hText hDescribe
      | error e =>
          have hFails := Fails.of_attempt hResult
          exact (ih hOthers).refused hFails (reportWord_fails_iff.mp hFails)

end Introspector

/-- One bad word never hides the others. Over an image, for all words, in both formats and at every depth:
the report on a word fails just when describing the word does, whatever goes wrong behind the description.
The report on a list is that of the words which are described, in order and each of them whole; every
other word has one line on the channel for errors, in order and with the word in front; and the list
succeeds just when every word is described. As long as no registered decoder reaches a defect, and none
of those that the inspector comes with does, there is always such a report. -/
theorem bad_words_hide_no_others (i : Introspector) (image : MemoryImage) (format : ReportFormat)
    (depth : Nat) :
    (∀ word e, (i.reportWord format depth word).Fails image.host e ↔
      (i.describe word).Fails image.host e) ∧
    (∀ words reported, (i.reportWords format depth words).Yields image.host reported →
      i.Accounts image.host format depth words reported) ∧
    (i.registry.NeverStops →
      (∀ word, (∃ text, (i.reportWord format depth word).Yields image.host text) ↔
        ∃ description, (i.describe word).Yields image.host description) ∧
      ∀ words, ∃ reported, (i.reportWords format depth words).Yields image.host reported) := by
  refine ⟨fun _ _ => Introspector.reportWord_fails_iff,
    fun _ _ => Introspector.accounts_of_yields, ?_⟩
  intro hRegistry
  constructor
  · intro word
    constructor
    · rintro ⟨text, hText⟩
      obtain ⟨description, hDescribe, _⟩ := exists_yields_of_bind hText
      exact ⟨description, hDescribe⟩
    · rintro ⟨description, hDescribe⟩
      have hReport := Introspector.report_alwaysReturns hRegistry format depth hDescribe.mayReturn
      obtain ⟨text, hText⟩ := exists_yields hReport
      exact ⟨text, hDescribe.bind hText⟩
  · exact fun words => exists_yields (Introspector.reportWords_alwaysReturns hRegistry)

/-- A reference that is not aligned stands between an object whose type cannot be read, and a number. -/
theorem bad_words_hide_no_others_unaligned :
    let i := MemoryImage.contradictory.introspector .builtin
    let host := MemoryImage.contradictory.host
    let words := [0x5000, 0x1002, 7]
    let output : Output :=
      ⟨"0x5000 zis_object\x7b type=<0x2200>, gc_info=\x7bstate=NEW, marked=false\x7d \x7d\n" ++
        "  <cannot read 16 bytes at 0x2228: address range is not mapped>\n" ++ "smallint\x7b3\x7d\n",
        "0x1002: cannot decode object at 0x1002: reference is not word aligned\n"⟩
    i.registry.NeverStops ∧
    ∃ reported, (i.reportWords .text 1 words).Yields host reported ∧
      i.Accounts host .text 1 words reported ∧ reported.output = output := by
  intro i host words output
  obtain ⟨_, hAccounts, hReturns⟩ := bad_words_hide_no_others i MemoryImage.contradictory .text 1
  have hRegistry : i.registry.NeverStops := Registry.builtin_isStandard.neverStops
  obtain ⟨_, hReported⟩ := hReturns hRegistry
  obtain ⟨reported, hYields⟩ := hReported words
  have hOutput : ((i.reportWords .text 1 words).run host []).outcome.map ReportedWords.output =
      .ok output := by decide +kernel
  rw [hYields []] at hOutput
  exact ⟨hRegistry, reported, hYields, hAccounts _ _ hYields, Except.ok.inj hOutput⟩

end HeapInspector
