import HeapInspector.Repl.Command
import Mathlib.Data.List.Infix

/-! Which line is which command. A command with an argument is found at the very start of a line and one
without is found between white space, so the two tests look at different texts; the second character of
the names is what keeps them apart. -/
namespace HeapInspector

namespace Blank

theorem trimEnd_prefix (text : List Char) : trimEnd text <+: text := by
  have hSuffix : text.reverse.dropWhile isBlank <:+ text.reverse := List.dropWhile_suffix _
  rw [← List.reverse_prefix, List.reverse_reverse] at hSuffix
  exact hSuffix

/-- Nothing is taken off the front of a text that starts with no white space. -/
theorem trim_prefix {c : Char} (h : isBlank c = false) (rest : List Char) :
    trim (c :: rest) <+: c :: rest := by
  have hStart : trimStart (c :: rest) = c :: rest := List.dropWhile_cons_of_neg (by simp [h])
  rw [trim, hStart]
  exact trimEnd_prefix _

end Blank

namespace Repl.Command

variable {name line text : String}

theorem argument?_eq_some_iff : argument? name line = some text ↔ line = name ++ text := by
  unfold argument?
  rw [← String.toList_inj, String.toList_append]
  constructor
  · intro h
    split at h
    · rename_i hStarts
      obtain ⟨rest, hRest⟩ := List.isPrefixOf_iff_prefix.mp hStarts
      rw [← hRest, List.drop_left, Option.some.injEq] at h
      rw [← hRest, ← h, String.toList_ofList]
    · cases h
  · intro h
    rw [h, if_pos (List.isPrefixOf_iff_prefix.mpr (List.prefix_append _ _)), List.drop_left,
      String.ofList_toList]

theorem argument?_append (name text : String) : argument? name (name ++ text) = some text :=
  argument?_eq_some_iff.mpr rfl

theorem argument?_eq_none_iff : argument? name line = none ↔ ∀ text, line ≠ name ++ text := by
  rw [Option.eq_none_iff_forall_ne_some]
  exact forall_congr' fun text => not_congr argument?_eq_some_iff

theorem fieldsName_append_ne_depthName_append (text other : String) :
    fieldsName ++ text ≠ depthName ++ other := by
  intro hSame
  have hLists : fieldsName.toList ++ text.toList = depthName.toList ++ other.toList := by
    rw [← String.toList_append, hSame, String.toList_append]
  have hSecond : 'f' = 'd' := congrArg (·.getD 1 ' ') hLists
  revert hSecond
  decide

@[simp] theorem parse_fields (text : String) : parse (fieldsName ++ text) = fields text := by
  rw [parse, argument?_append]

@[simp] theorem parse_setDepth (text : String) : parse (depthName ++ text) = setDepth text := by
  have hNone : argument? fieldsName (depthName ++ text) = none :=
    argument?_eq_none_iff.mpr fun other hSame => fieldsName_append_ne_depthName_append other text hSame.symm
  rw [parse, hNone, argument?_append]

/-- The line without the white space at its ends, where commands without an argument are found. -/
def trimmed (line : String) : String := String.ofList (Blank.trim line.toList)

/-- Where a command with an argument stands, white space at the end is all that trimming takes off. -/
theorem trimmed_ne {plain : String} {c d : Char} {rest more : List Char}
    (hName : name.toList = '/' :: c :: rest) (hPlain : plain.toList = '/' :: d :: more) (hOther : c ≠ d)
    (text : String) : trimmed (name ++ text) ≠ plain := by
  intro hSame
  have hTrim : Blank.trim ('/' :: c :: (rest ++ text.toList)) = '/' :: d :: more := by
    rw [← hPlain, ← hSame, trimmed, String.toList_ofList, String.toList_append, hName]
    rfl
  have hPrefix := Blank.trim_prefix (c := '/') (by decide) (c :: (rest ++ text.toList))
  rw [hTrim, List.cons_prefix_cons, List.cons_prefix_cons] at hPrefix
  exact hOther hPrefix.2.1.symm

/-- What is left to tell once neither of the commands with an argument is there. -/
theorem parse_of_no_argument (hFields : ∀ text, line ≠ fieldsName ++ text)
    (hDepth : ∀ text, line ≠ depthName ++ text) :
    parse line = if trimmed line = helpName then help
      else if trimmed line = quitName then quit
      else if trimmed line = "" then blank
      else describe line := by
  rw [parse, argument?_eq_none_iff.mpr hFields, argument?_eq_none_iff.mpr hDepth]
  rfl

/-- A line starts with one of the two names that take an argument, or with neither. -/
theorem argument_cases (line : String) :
    (∃ text, line = fieldsName ++ text) ∨ (∃ text, line = depthName ++ text) ∨
      (∀ text, line ≠ fieldsName ++ text) ∧ ∀ text, line ≠ depthName ++ text := by
  by_cases hFields : ∃ text, line = fieldsName ++ text
  · exact .inl hFields
  · by_cases hDepth : ∃ text, line = depthName ++ text
    · exact .inr (.inl hDepth)
    · exact .inr (.inr ⟨not_exists.mp hFields, not_exists.mp hDepth⟩)

theorem parse_eq_quit_iff : parse line = quit ↔ trimmed line = quitName := by
  have hFields : fieldsName.toList = '/' :: 'f' :: "ields ".toList := rfl
  have hDepth : depthName.toList = '/' :: 'd' :: "epth ".toList := rfl
  have hQuit : quitName.toList = '/' :: 'q' :: "uit".toList := rfl
  rcases argument_cases line with ⟨text, rfl⟩ | ⟨text, rfl⟩ | ⟨hFields, hDepth⟩
  · have hOther : trimmed (fieldsName ++ text) ≠ quitName :=
      trimmed_ne hFields hQuit (by decide) text
    simp [hOther]
  · have hOther : trimmed (depthName ++ text) ≠ quitName :=
      trimmed_ne hDepth hQuit (by decide) text
    simp [hOther]
  · rw [parse_of_no_argument hFields hDepth]
    split_ifs with hHelp hSays hBlank
    · rw [hHelp]
      decide
    · simp [hSays]
    · rw [hBlank]
      decide
    · simp [hSays]

theorem parse_eq_setDepth_iff : parse line = setDepth text ↔ line = depthName ++ text := by
  constructor
  · intro h
    rcases argument_cases line with ⟨other, rfl⟩ | ⟨other, rfl⟩ | ⟨hFields, hDepth⟩
    · rw [parse_fields] at h
      cases h
    · rw [parse_setDepth] at h
      cases h
      rfl
    · rw [parse_of_no_argument hFields hDepth] at h
      split_ifs at h
  · rintro rfl
    exact parse_setDepth text

/-- A line that is no command. Whether its text is a word is another question. -/
structure IsFree (line : String) : Prop where
  fields : ∀ text, line ≠ fieldsName ++ text
  depth : ∀ text, line ≠ depthName ++ text
  trimmed : trimmed line ∉ [helpName, quitName, ""]

theorem parse_eq_describe_iff : parse line = describe text ↔ text = line ∧ IsFree line := by
  rcases argument_cases line with ⟨other, rfl⟩ | ⟨other, rfl⟩ | ⟨hFields, hDepth⟩
  · rw [parse_fields]
    exact iff_of_false (fun h => by cases h) fun h => h.2.fields other rfl
  · rw [parse_setDepth]
    exact iff_of_false (fun h => by cases h) fun h => h.2.depth other rfl
  · have hFree : IsFree line ↔ trimmed line ∉ [helpName, quitName, ""] :=
      ⟨fun h => h.trimmed, fun h => ⟨hFields, hDepth, h⟩⟩
    rw [parse_of_no_argument hFields hDepth, hFree]
    split_ifs with hHelp hQuit hBlank
    · exact iff_of_false (fun h => by cases h) fun h => h.2 (by simp [hHelp])
    · exact iff_of_false (fun h => by cases h) fun h => h.2 (by simp [hQuit])
    · exact iff_of_false (fun h => by cases h) fun h => h.2 (by simp [hBlank])
    · have hNone : trimmed line ∉ [helpName, quitName, ""] := by simp [hHelp, hQuit, hBlank]
      rw [describe.injEq, eq_comm, and_iff_left hNone]

end Repl.Command

end HeapInspector
