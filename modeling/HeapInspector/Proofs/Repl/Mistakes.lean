import HeapInspector.Proofs.Repl.Commands
import HeapInspector.Proofs.Text.Blank
import HeapInspector.Repl.Editing
import HeapInspector.Repl.Session

/-! Lines that look like a command and are taken for a word. No word begins with a slash, so such a line is
answered with the message about a malformed word. The colour of an error announces this answer and nothing
else. White space in front of a command with an argument leads to it as well, while no other line is
changed by white space in front of it. -/
namespace HeapInspector

theorem Style.boldRed_paint_ne (text : String) : boldRed.paint text ≠ text := by
  intro hSame
  have hMark : ("\x1b[" : String).length = 2 := rfl
  have hLength := congrArg String.length hSame
  simp only [paint, boldRed, String.length_append] at hLength
  omega

namespace Repl

variable {line blanks : String} {i : Introspector} {depth : Nat}

theorem readWordText_slash (rest : List Char) : readWordText ('/' :: rest) = .error .invalidDigit := rfl

theorem trim_head_of_slash (h : line.toList.head? = some '/') :
    (Blank.trim line.toList).head? = some '/' := by
  obtain ⟨rest, hLine⟩ := List.head?_eq_some_iff.mp h
  rw [hLine]
  exact Blank.head?_trim (by decide) rest

theorem parseWord_of_slash (h : (Blank.trim line.toList).head? = some '/') :
    parseWord line = .error ⟨Command.trimmed line, .invalidDigit⟩ := by
  obtain ⟨rest, hTrim⟩ := List.head?_eq_some_iff.mp h
  rw [parseWord, Command.trimmed, hTrim, readWordText_slash]
  rfl

/-- What a line that begins with a slash is answered with when it is taken for a word. -/
def slashMistake (line : String) : Output :=
  mistake ("invalid address `" ++ Command.trimmed line ++ "`: " ++ "invalid digit found in string")

theorem answer_of_slash (h : (Blank.trim line.toList).head? = some '/') (i : Introspector) (depth : Nat) :
    (Command.describe line).answer i depth = return slashMistake line := by
  rw [Command.answer, answerWord, parseWord_of_slash h]
  rfl

/-- The line begins with a slash, and not with the name of a command. -/
structure IsMarked (line : String) : Prop where
  slash : line.toList.head? = some '/'
  unknown : ∀ name ∈ commandNames, ¬ Blank.trimEnd name <+: line.toList

theorem isMarked_iff : IsMarked line ↔
    (startsLikeCommand line.toList && !startsWithCommand line.toList) = true := by
  have hEach : startsWithCommand line.toList = false ↔
      ∀ name ∈ commandNames, ¬ Blank.trimEnd name <+: line.toList := by
    simp [startsWithCommand, List.isPrefixOf_iff_prefix]
  rw [Bool.and_eq_true, Bool.not_eq_true', hEach, startsLikeCommand, decide_eq_true_eq]
  exact ⟨fun h => ⟨h.slash, h.unknown⟩, fun h => ⟨h.1, h.2⟩⟩

theorem highlight_cases (line : String) :
    IsMarked line ∧ highlight line = Style.boldRed.paint line ∨
      ¬ IsMarked line ∧ highlight line = line := by
  unfold highlight
  rw [isMarked_iff]
  split
  · rename_i h
    exact .inl ⟨h, rfl⟩
  · rename_i h
    exact .inr ⟨h, rfl⟩

namespace IsMarked

theorem trim_head (h : IsMarked line) : (Blank.trim line.toList).head? = some '/' :=
  trim_head_of_slash h.slash

theorem trim_prefix (h : IsMarked line) : Blank.trim line.toList <+: line.toList := by
  obtain ⟨rest, hLine⟩ := List.head?_eq_some_iff.mp h.slash
  rw [hLine]
  exact Blank.trim_prefix (by decide) rest

/-- Each way to recognise a command needs its name at the start of the line. -/
theorem isFree (h : IsMarked line) : Command.IsFree line where
  fields text hLine := by
    apply h.unknown Command.fieldsName.toList (by decide)
    rw [hLine, String.toList_append]
    exact (Blank.trimEnd_prefix _).trans (List.prefix_append _ _)
  depth text hLine := by
    apply h.unknown Command.depthName.toList (by decide)
    rw [hLine, String.toList_append]
    exact (Blank.trimEnd_prefix _).trans (List.prefix_append _ _)
  trimmed hMem := by
    have hTrim := h.trim_prefix
    have hHead := h.trim_head
    have hText : (Command.trimmed line).toList = Blank.trim line.toList := String.toList_ofList
    rw [← hText] at hTrim hHead
    simp only [List.mem_cons, List.not_mem_nil, or_false] at hMem
    rcases hMem with hHelp | hQuit | hEmpty
    · rw [hHelp] at hTrim
      exact h.unknown Command.helpName.toList (by decide) hTrim
    · rw [hQuit] at hTrim
      exact h.unknown Command.quitName.toList (by decide) hTrim
    · rw [hEmpty] at hHead
      cases hHead

theorem parse (h : IsMarked line) : Command.parse line = .describe line :=
  Command.parse_eq_describe_iff.mpr ⟨rfl, h.isFree⟩

/-- The interactive loop answers the line with the mistake, and goes on with the same depth. -/
theorem loop_cons (h : IsMarked line) (i : Introspector) (state : State) (rest : List String) :
    loop i state (line :: rest) = (do
      let (state, second) ← loop i { state with history := state.history.map (·.enter line) } rest
      return (state, slashMistake line ++ second)) := by
  rw [loop, h.parse]
  dsimp only
  rw [answer_of_slash h.trim_head]
  rfl

end IsMarked

/-- The colour of an error is no false alarm. A line in this colour is no command and no word, and entered it
is answered with the message that says so, while a line that is a command or a word keeps its colour. -/
theorem error_colours_announce_errors (line : String) :
    (highlight line = Style.boldRed.paint line ∨ highlight line = line) ∧
    (highlight line = Style.boldRed.paint line →
      Command.parse line = .describe line ∧
      parseWord line = .error ⟨Command.trimmed line, .invalidDigit⟩ ∧
      ∀ i state rest, loop i state (line :: rest) = (do
        let (state, second) ← loop i { state with history := state.history.map (·.enter line) } rest
        return (state, slashMistake line ++ second))) ∧
    ((∃ text, Command.parse line = .fields text) ∨ (∃ text, Command.parse line = .setDepth text) ∨
      Command.parse line = .help ∨ Command.parse line = .quit ∨ (∃ word, parseWord line = .ok word) →
        highlight line = line) := by
  rcases highlight_cases line with ⟨hMarked, hPainted⟩ | ⟨_, hPlain⟩
  · have hParse := hMarked.parse
    have hWord := parseWord_of_slash hMarked.trim_head
    refine ⟨.inl hPainted, fun _ => ⟨hParse, hWord, hMarked.loop_cons⟩, ?_⟩
    rw [hParse, hWord]
    rintro (⟨_, h⟩ | ⟨_, h⟩ | h | h | ⟨_, h⟩) <;> cases h
  · refine ⟨.inr hPlain, fun hPainted => ?_, fun _ => hPlain⟩
    exact absurd (hPainted.symm.trans hPlain) (Style.boldRed_paint_ne line)

/-- A misspelled command is in the colour of an error and answered with one. With white space behind it a
known one is not. -/
theorem error_colours_announce_errors_misspelled :
    highlight "/feilds 3" = Style.boldRed.paint "/feilds 3" ∧
    Command.parse "/feilds 3" = .describe "/feilds 3" ∧
    parseWord "/feilds 3" = .error ⟨"/feilds 3", .invalidDigit⟩ ∧
    Command.parse "/help  " = .help ∧ highlight "/help  " = "/help  " := by
  obtain ⟨_, hError, _⟩ := error_colours_announce_errors "/feilds 3"
  obtain ⟨_, _, hKnown⟩ := error_colours_announce_errors "/help  "
  have hPainted : highlight "/feilds 3" = Style.boldRed.paint "/feilds 3" := rfl
  have hHelp : Command.parse "/help  " = .help := rfl
  obtain ⟨hParse, hWord, _⟩ := hError hPainted
  exact ⟨hPainted, hParse, hWord, hHelp, hKnown (.inr (.inr (.inl hHelp)))⟩

namespace Command

/-- The line asks for a command with an argument. -/
def HasArgument (line : String) : Prop :=
  (∃ text, line = fieldsName ++ text) ∨ ∃ text, line = depthName ++ text

/-- The command without white space around its argument. -/
def trimArgument : Command → Command
  | describe text => describe (trimmed text)
  | fields text => fields (trimmed text)
  | setDepth text => setDepth (trimmed text)
  | help => help
  | quit => quit
  | blank => blank

theorem trim_trimmed (text : String) : Blank.trim (trimmed text).toList = Blank.trim text.toList := by
  rw [trimmed, String.toList_ofList, Blank.trim_trim]

/-- White space around an argument makes no difference to the answer. -/
theorem answer_trimArgument (i : Introspector) (depth : Nat) (command : Command) :
    command.trimArgument.answer i depth = command.answer i depth := by
  cases command with
  | describe text => simp only [trimArgument, answer, answerWord, parseWord, trim_trimmed]
  | fields text => simp only [trimArgument, answer, answerWord, parseWord, trim_trimmed]
  | setDepth text => simp only [trimArgument, answer, readDepth?, trim_trimmed]
  | help => rfl
  | quit => rfl
  | blank => rfl

theorem depthAfter_trimArgument (depth : Nat) (command : Command) :
    command.trimArgument.depthAfter depth = command.depthAfter depth := by
  cases command with
  | setDepth text => simp only [trimArgument, depthAfter, readDepth?, trim_trimmed]
  | _ => rfl

theorem HasArgument.slash (h : HasArgument line) : line.toList.head? = some '/' := by
  rcases h with ⟨text, rfl⟩ | ⟨text, rfl⟩
  · rw [String.toList_append]
    rfl
  · rw [String.toList_append]
    rfl

theorem HasArgument.trim_head (h : HasArgument line) : (Blank.trim line.toList).head? = some '/' :=
  trim_head_of_slash h.slash

/-- Trimmed, the line is none of the commands without an argument. -/
theorem HasArgument.trimmed_not_mem (h : HasArgument line) :
    trimmed line ∉ [helpName, quitName, ""] := by
  have hHead : (trimmed line).toList.head? = some '/' := by
    rw [trimmed, String.toList_ofList]
    exact h.trim_head
  have hHelp : helpName.toList = '/' :: 'h' :: "elp".toList := rfl
  have hQuit : quitName.toList = '/' :: 'q' :: "uit".toList := rfl
  have hEmpty : trimmed line ≠ "" := by
    intro hNone
    rw [hNone] at hHead
    cases hHead
  rcases h with ⟨text, rfl⟩ | ⟨text, rfl⟩
  · have hFields : fieldsName.toList = '/' :: 'f' :: "ields ".toList := rfl
    simp [hEmpty, trimmed_ne hFields hHelp (by decide), trimmed_ne hFields hQuit (by decide)]
  · have hDepth : depthName.toList = '/' :: 'd' :: "epth ".toList := rfl
    simp [hEmpty, trimmed_ne hDepth hHelp (by decide), trimmed_ne hDepth hQuit (by decide)]

theorem HasArgument.trimArgument_parse_ne (h : HasArgument line) (text : String) :
    (parse line).trimArgument ≠ describe text := by
  rcases h with ⟨argument, rfl⟩ | ⟨argument, rfl⟩
  · rw [parse_fields]
    exact nofun
  · rw [parse_setDepth]
    exact nofun

theorem parse_of_not_hasArgument (h : ¬ HasArgument line) :
    parse line = if trimmed line = helpName then help
      else if trimmed line = quitName then quit
      else if trimmed line = "" then blank
      else describe line :=
  parse_of_no_argument (fun text hLine => h (.inl ⟨text, hLine⟩))
    fun text hLine => h (.inr ⟨text, hLine⟩)

end Command

section Blanks

variable (hBlanks : ∀ c ∈ blanks.toList, Blank.isBlank c)

include hBlanks

theorem trimmed_append (line : String) : Command.trimmed (blanks ++ line) = Command.trimmed line := by
  rw [Command.trimmed, String.toList_append, Blank.trim, Blank.trimStart_append hBlanks]
  rfl

/-- Behind white space there is no name of a command at the start of the line. -/
theorem not_hasArgument_append (hSome : blanks ≠ "") (line : String) :
    ¬ Command.HasArgument (blanks ++ line) := by
  intro hArgument
  have hSlash := hArgument.slash
  cases hList : blanks.toList with
  | nil => exact hSome (String.toList_eq_nil_iff.mp hList)
  | cons c rest =>
      rw [String.toList_append, hList, List.cons_append, List.head?_cons, Option.some.injEq] at hSlash
      have hBlank := hBlanks c (hList ▸ List.mem_cons_self)
      rw [hSlash] at hBlank
      exact absurd hBlank (by decide)

theorem trimArgument_parse_append (h : ¬ Command.HasArgument line) :
    (Command.parse (blanks ++ line)).trimArgument = (Command.parse line).trimArgument := by
  by_cases hSome : blanks = ""
  · rw [hSome, String.empty_append]
  · rw [Command.parse_of_not_hasArgument (not_hasArgument_append hBlanks hSome line),
      Command.parse_of_not_hasArgument h, trimmed_append hBlanks]
    split_ifs
    · rfl
    · rfl
    · rfl
    · rw [Command.trimArgument, Command.trimArgument, trimmed_append hBlanks]

/-- Behind white space, a command with an argument is taken for a word. -/
theorem parse_append_of_hasArgument (hSome : blanks ≠ "") (h : Command.HasArgument line) :
    Command.parse (blanks ++ line) = .describe (blanks ++ line) := by
  have hNone := not_hasArgument_append hBlanks hSome line
  refine Command.parse_eq_describe_iff.mpr ⟨rfl, ⟨?_, ?_, ?_⟩⟩
  · exact fun text hLine => hNone (.inl ⟨text, hLine⟩)
  · exact fun text hLine => hNone (.inr ⟨text, hLine⟩)
  · rw [trimmed_append hBlanks]
    exact h.trimmed_not_mem

end Blanks

/-- White space in front of a line changes nothing of its command, its argument trimmed, nor of its answer and
the depth behind it, unless it is a command with an argument. Such a line is then taken for a word and
answered with the message that it is none. -/
theorem blanks_hide_commands_with_argument (hBlanks : ∀ c ∈ blanks.toList, Blank.isBlank c)
    (line : String) :
    ((Command.parse (blanks ++ line)).trimArgument = (Command.parse line).trimArgument ↔
      blanks = "" ∨ ¬ Command.HasArgument line) ∧
    (blanks = "" ∨ ¬ Command.HasArgument line → ∀ i depth,
      (Command.parse (blanks ++ line)).answer i depth = (Command.parse line).answer i depth ∧
      (Command.parse (blanks ++ line)).depthAfter depth = (Command.parse line).depthAfter depth) ∧
    (blanks ≠ "" → Command.HasArgument line →
      Command.parse (blanks ++ line) = .describe (blanks ++ line) ∧
      ∀ i depth, (Command.parse (blanks ++ line)).answer i depth = return slashMistake line) := by
  have hKept : blanks = "" ∨ ¬ Command.HasArgument line →
      (Command.parse (blanks ++ line)).trimArgument = (Command.parse line).trimArgument := by
    rintro (rfl | hPlain)
    · rw [String.empty_append]
    · exact trimArgument_parse_append hBlanks hPlain
  refine ⟨⟨fun hSame => ?_, hKept⟩, fun hCase i depth => ?_, fun hSome hArgument => ?_⟩
  · by_contra hCase
    obtain ⟨hSome, hArgument⟩ := not_or.mp hCase
    rw [parse_append_of_hasArgument hBlanks hSome (not_not.mp hArgument)] at hSame
    exact (not_not.mp hArgument).trimArgument_parse_ne _ hSame.symm
  · constructor
    · rw [← Command.answer_trimArgument, hKept hCase, Command.answer_trimArgument]
    · rw [← Command.depthAfter_trimArgument, hKept hCase, Command.depthAfter_trimArgument]
  · have hParse := parse_append_of_hasArgument hBlanks hSome hArgument
    refine ⟨hParse, fun i depth => ?_⟩
    have hHead : (Blank.trim (blanks ++ line).toList).head? = some '/' := by
      rw [← Command.trim_trimmed, trimmed_append hBlanks, Command.trim_trimmed]
      exact hArgument.trim_head
    rw [hParse, answer_of_slash hHead, slashMistake, trimmed_append hBlanks, slashMistake]

/-- A tab in front of the end of a session does not keep it from ending, and one in front of a new depth keeps
it from being set. -/
theorem blanks_hide_commands_with_argument_tab :
    (∀ c ∈ "\t".toList, Blank.isBlank c) ∧ ¬ Command.HasArgument "/quit" ∧
    (Command.parse ("\t" ++ "/quit")).trimArgument = .quit ∧
    Command.HasArgument "/depth 3" ∧
    Command.parse ("\t" ++ "/depth 3") = .describe ("\t" ++ "/depth 3") := by
  have hBlanks : ∀ c ∈ "\t".toList, Blank.isBlank c := List.forall_mem_singleton.mpr (by decide)
  have hQuit : ¬ Command.HasArgument "/quit" := fun h => h.trimmed_not_mem (by decide)
  have hDepth : Command.HasArgument "/depth 3" := .inr ⟨"3", rfl⟩
  have hKept := (blanks_hide_commands_with_argument hBlanks "/quit").1.mpr (.inr hQuit)
  have hHidden := (blanks_hide_commands_with_argument hBlanks "/depth 3").2.2 (by decide) hDepth
  exact ⟨hBlanks, hQuit, hKept, hDepth, hHidden.1⟩

/-- A blank in front turns the fields of an object into a word that is none. -/
theorem fields_behind_blank_are_a_mistake :
    Blank.isBlank ' ' = true ∧ Command.parse "/fields 0x10" = .fields "0x10" ∧
    Command.parse (" " ++ "/fields 0x10") = .describe " /fields 0x10" ∧
    (Command.parse (" " ++ "/fields 0x10")).trimArgument ≠ (Command.parse "/fields 0x10").trimArgument ∧
    parseWord " /fields 0x10" = .error ⟨"/fields 0x10", .invalidDigit⟩ := by
  decide +kernel

end Repl

end HeapInspector
