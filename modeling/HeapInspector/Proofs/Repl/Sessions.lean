import HeapInspector.Proofs.Rendering.Returns
import HeapInspector.Proofs.Repl.Commands
import HeapInspector.Proofs.Results.Still
import HeapInspector.Repl.Session

/-! A session of the interactive loop, whatever lines it is given and whatever its host responds. The loop
is told without its state: the lines up to the first one that says to quit are answered one by one, and
of the lines before it an answer knows only the depth that they leave. -/
namespace HeapInspector

open Inquiry

/-- Outputs one behind the other. -/
def Output.join (outputs : List Output) : Output := outputs.foldr (· ++ ·) .empty

namespace Repl

/-- Whether a line ends a session. -/
def saysQuit (line : String) : Bool := Command.trimmed line = Command.quitName

/-- The lines in front of the first one that says to quit. -/
def answeredLines (lines : List String) : List String := lines.takeWhile (!saysQuit ·)

/-- The lines that are taken in, with the one that ends the session. -/
def linesRead : List String → List String
  | [] => []
  | line :: rest => if saysQuit line then [line] else line :: linesRead rest

/-- The depth that a line sets: the number behind the name of the command, if both are there. -/
def depthSet? (line : String) : Option Nat := (Command.argument? Command.depthName line).bind readDepth?

/-- The depth behind some lines is the last one that was set. -/
def depthBehind (initial : Nat) (lines : List String) : Nat :=
  (lines.reverse.findSome? depthSet?).getD initial

/-- Each line, with the lines before it. -/
def withEarlier (lines : List String) : List (List String × String) := lines.inits.zip lines

variable {i : Introspector} {state : State} {line text : String} {lines : List String} {depth : Nat}

theorem withEarlier_cons (line : String) (rest : List String) :
    withEarlier (line :: rest) =
      ([], line) :: (withEarlier rest).map fun entry => (line :: entry.1, entry.2) := by
  unfold withEarlier
  rw [List.inits_cons, List.zip_cons_cons, List.zip_map_left]
  rfl

theorem depthBehind_cons (initial : Nat) (line : String) (rest : List String) :
    depthBehind initial (line :: rest) = depthBehind ((depthSet? line).getD initial) rest := by
  unfold depthBehind
  rw [List.reverse_cons, List.findSome?_append, List.findSome?_singleton]
  cases rest.reverse.findSome? depthSet? with
  | none => rfl
  | some depth => rfl

/-- Only a line with a depth that can be read changes the depth in force. -/
theorem depthAfter_parse (depth : Nat) (line : String) :
    (Command.parse line).depthAfter depth = (depthSet? line).getD depth := by
  unfold depthSet?
  cases hText : Command.argument? Command.depthName line with
  | some text =>
      rw [Command.argument?_eq_some_iff.mp hText, Command.parse_setDepth]
      rfl
  | none =>
      cases hParse : Command.parse line with
      | setDepth text =>
          have hLine := Command.parse_eq_setDepth_iff.mp hParse
          exact absurd hLine (Command.argument?_eq_none_iff.mp hText text)
      | _ => rfl

theorem loop_cons_of_saysQuit (h : saysQuit line = true) (rest : List String) :
    loop i state (line :: rest) =
      return ({ state with history := state.history.map (·.enter line) }, .empty) := by
  have hParse : Command.parse line = .quit := Command.parse_eq_quit_iff.mpr (of_decide_eq_true h)
  rw [loop, hParse]

/-- A line that does not end the session is answered at the depth in force. -/
theorem loop_cons_of_not_saysQuit (h : saysQuit line = false) (rest : List String) :
    loop i state (line :: rest) = (do
      let first ← (Command.parse line).answer i state.depth
      let (state, second) ←
        loop i ⟨(depthSet? line).getD state.depth, state.history.map (·.enter line)⟩ rest
      return (state, first ++ second)) := by
  have hParse : Command.parse line ≠ .quit := fun hQuit =>
    of_decide_eq_false h (Command.parse_eq_quit_iff.mp hQuit)
  rw [loop, ← depthAfter_parse]
  cases hCommand : Command.parse line with
  | quit => exact absurd hCommand hParse
  | _ => rfl

/-- The answer to a line that has others before it. -/
def answerAt (i : Introspector) (initial : Nat) (entry : List String × String) : Inquiry Output :=
  (Command.parse entry.2).answer i (depthBehind initial entry.1)

/-- A session is told by its lines: an answer for each of them, and what is left behind. -/
def retold (i : Introspector) (state : State) (lines : List String) : Inquiry (State × Output) := do
  let answers ← forEach (answerAt i state.depth) (withEarlier (answeredLines lines))
  let history := state.history.map fun kept => (linesRead lines).foldl KeptHistory.enter kept
  return (⟨depthBehind state.depth (answeredLines lines), history⟩, Output.join answers)

theorem retold_cons_of_saysQuit (h : saysQuit line = true) (rest : List String) :
    retold i state (line :: rest) =
      return ({ state with history := state.history.map (·.enter line) }, .empty) := by
  have hAnswered : answeredLines (line :: rest) = [] := List.takeWhile_cons_of_neg (by simp [h])
  rw [retold, hAnswered, linesRead, if_pos h]
  rfl

theorem retold_cons_of_not_saysQuit (h : saysQuit line = false) (rest : List String) :
    retold i state (line :: rest) = (do
      let first ← (Command.parse line).answer i state.depth
      let (state, second) ←
        retold i ⟨(depthSet? line).getD state.depth, state.history.map (·.enter line)⟩ rest
      return (state, first ++ second)) := by
  have hAnswered : answeredLines (line :: rest) = line :: answeredLines rest :=
    List.takeWhile_cons_of_pos (by simp [h])
  have hRead : linesRead (line :: rest) = line :: linesRead rest := by
    rw [linesRead, h]
    rfl
  have hLater (entry : List String × String) : answerAt i state.depth (line :: entry.1, entry.2) =
      answerAt i ((depthSet? line).getD state.depth) entry := by
    rw [answerAt, answerAt, depthBehind_cons]
  simp only [retold, hAnswered, hRead, withEarlier_cons, forEach, forEach_map, hLater,
    depthBehind_cons, LawfulMonad.bind_assoc, pure_bind, Option.map_map]
  rfl

theorem loop_eq_retold (i : Introspector) (state : State) (lines : List String) :
    loop i state lines = retold i state lines := by
  induction lines generalizing state with
  | nil =>
      obtain ⟨depth, history⟩ := state
      cases history <;> rfl
  | cons line rest ih =>
      cases hQuit : saysQuit line with
      | true => rw [loop_cons_of_saysQuit hQuit, retold_cons_of_saysQuit hQuit]
      | false =>
          rw [loop_cons_of_not_saysQuit hQuit, retold_cons_of_not_saysQuit hQuit]
          simp only [ih]

/-- Over a host each line has an output of its own, which no other line has a part in but through the
depth, and the session has all of them. -/
structure ComesTo (i : Introspector) (state : State) (lines : List String) (host : Host)
    (outputs : List Output) : Prop where
  each : List.Forall₂ (fun entry output => (answerAt i state.depth entry).Yields host output)
    (withEarlier (answeredLines lines)) outputs
  whole : (loop i state lines).Yields host (⟨depthBehind state.depth (answeredLines lines),
    state.history.map fun kept => (linesRead lines).foldl KeptHistory.enter kept⟩, Output.join outputs)

/-- What a word is answered with. There is one message if the text is no word, and one if the word cannot
be described. Otherwise there is the text that is made of the description, and nothing beside it. -/
structure AnswersWord (i : Introspector) (text : String) (present : Description → Inquiry Rendering)
    (answer : Inquiry Output) : Prop where
  malformed : ∀ fault, parseWord text = .error fault →
    answer = return .complain (Style.boldRed.paint fault.message)
  refused : ∀ word host past e, parseWord text = .ok word →
    ((i.describe word).run host past).outcome = .error (.error e) →
    answer.run host past = ⟨.ok (.complain (Style.boldRed.paint ("error: " ++ e.message))),
      ((i.describe word).run host past).trace⟩
  presented : ∀ word host past description, parseWord text = .ok word →
    ((i.describe word).run host past).outcome = .ok description →
    let described := (i.describe word).run host past
    let rendered := (present description).run host (described.requests.reverse ++ past)
    answer.run host past = ⟨rendered.outcome.map fun rendering => .print (rendering.text .coloured),
      described.trace ++ rendered.trace⟩

theorem text_message (e : Error) :
    (Rendering.message e).text .coloured = Style.boldRed.paint ("error: " ++ e.message) := by
  simp [Rendering.message, Rendering.text, Palette.paint, Palette.coloured]

theorem answerWord_answersWord (i : Introspector) (text : String)
    (present : Description → Inquiry Rendering) :
    AnswersWord i text present (answerWord i text present) where
  malformed := by
    intro fault hText
    rw [answerWord, hText]
    rfl
  refused := by
    intro word host past e hText hDescribe
    have hAttempt : (i.describe word).attempt.run host past = ⟨.ok (.error e), _⟩ :=
      run_attempt hDescribe
    rw [answerWord, hText]
    dsimp only
    rw [run_bind_of_ok _ (congrArg Run.outcome hAttempt), hAttempt]
    dsimp only
    rw [text_message]
    exact congrArg (Run.mk _) (List.append_nil _)
  presented := by
    intro word host past description hText hDescribe
    have hAttempt : (i.describe word).attempt.run host past = ⟨.ok (.ok description), _⟩ :=
      run_attempt hDescribe
    rw [answerWord, hText]
    dsimp only
    rw [run_bind_of_ok _ (congrArg Run.outcome hAttempt), hAttempt]
    dsimp only
    rw [run_bind_pure]
    rfl

theorem answerWord_alwaysReturns {present : Description → Inquiry Rendering}
    (hPresent : ∀ word description, (i.describe word).MayReturn description →
      (present description).AlwaysReturns) : (answerWord i text present).AlwaysReturns := by
  unfold answerWord
  split
  · exact .pure _
  · rename_i word _
    apply NeverStops.attempt_bind (i.meets_describe Conduct.payloads_allows word).neverStops
    · intro description hDescribed
      exact (hPresent word description hDescribed).bind fun _ _ => .pure _
    · intro e
      exact .pure _

section Standard

variable (hStandard : i.registry.IsStandard)

include hStandard

theorem answer_alwaysReturns (depth : Nat) (command : Command) :
    (command.answer i depth).AlwaysReturns := by
  cases command with
  | describe text =>
      exact answerWord_alwaysReturns fun _ _ h =>
        Introspector.render_alwaysReturns hStandard.neverStops depth h
  | fields text =>
      exact answerWord_alwaysReturns fun _ _ h =>
        Introspector.renderOnlyFields_alwaysReturns hStandard.neverStops (max depth 1) h
  | setDepth text =>
      dsimp only [Command.answer]
      split
      · exact .pure _
      · exact .pure _
  | help => exact .pure _
  | quit => exact .pure _
  | blank => exact .pure _

theorem loop_alwaysReturns (state : State) (lines : List String) :
    (loop i state lines).AlwaysReturns := by
  rw [loop_eq_retold, retold]
  have hEach : (forEach (answerAt i state.depth) (withEarlier (answeredLines lines))).AlwaysReturns :=
    .forEach fun entry _ => answer_alwaysReturns hStandard _ _
  exact hEach.bind fun _ _ => .pure _

theorem exists_outputs (answer : Request → Response) (state : State) (lines : List String) :
    ∃ outputs, ComesTo i state lines (.still answer) outputs := by
  have hEach (entry : List String × String) :
      ∃ output, (answerAt i state.depth entry).Yields (.still answer) output :=
    exists_yields (answer_alwaysReturns hStandard _ _)
  choose output hOutput using hEach
  have hOutputs : List.Forall₂ (fun entry found =>
      (answerAt i state.depth entry).Yields (.still answer) found)
      (withEarlier (answeredLines lines)) ((withEarlier (answeredLines lines)).map output) := by
    rw [List.forall₂_map_right_iff, List.forall₂_same]
    exact fun entry _ => hOutput entry
  refine ⟨_, hOutputs, ?_⟩
  rw [loop_eq_retold, retold]
  exact (yields_forEach hOutputs).bind (.pure _)

end Standard

/-- What a session comes to, at every depth and for all lines. The lines up to the first one that says to
quit are answered in order, each at the last depth that a line before it has set. A line that is no
command is answered with the text of the value that it names, and one that asks for fields with the fields
of the value behind the command, or else with the one message that tells why not. No answer keeps a later
line from being answered, and where memory does not change it makes no difference to the answer. -/
theorem session_answers_each_line (i : Introspector) (state : State) (lines : List String) :
    loop i state lines = retold i state lines ∧
    (∀ earlier line, Command.IsFree line →
      AnswersWord i line (i.render (depthBehind state.depth earlier))
        (answerAt i state.depth (earlier, line))) ∧
    (∀ earlier text,
      AnswersWord i text (i.renderOnlyFields (max (depthBehind state.depth earlier) 1))
        (answerAt i state.depth (earlier, Command.fieldsName ++ text))) ∧
    (i.registry.IsStandard → (loop i state lines).AlwaysReturns ∧
      ∀ answer, ∃ outputs, ComesTo i state lines (.still answer) outputs) := by
  refine ⟨loop_eq_retold i state lines, ?_, ?_, ?_⟩
  · intro earlier line hFree
    rw [answerAt, Command.parse_eq_describe_iff.mpr ⟨rfl, hFree⟩]
    exact answerWord_answersWord i line _
  · intro earlier text
    rw [answerAt, Command.parse_fields]
    exact answerWord_answersWord i text _
  · intro hStandard
    exact ⟨loop_alwaysReturns hStandard state lines,
      fun answer => exists_outputs hStandard answer state lines⟩

/-- A session over a target without memory: an address that cannot be read, a depth that is not one, and a
number. The line behind the end is not looked at. -/
theorem session_answers_each_line_without_memory :
    let i : Introspector := ⟨⟨.w64, .little⟩, fun _ => none, .builtin⟩
    let host : Host := .still fun request => .error ⟨request.address, request.size, "not mapped"⟩
    let lines := ["/depth 2", "0x1000", "/depth x", "3", " /quit", "5"]
    i.registry.IsStandard ∧ Command.IsFree "3" ∧ (loop i ⟨1, none⟩ lines).AlwaysReturns ∧
    (loop i ⟨1, none⟩ lines).Yields host (⟨2, none⟩,
      ⟨Style.boldGreen.paint "smallint\x7b1\x7d" ++ "\n",
        Style.boldRed.paint "error: cannot read 16 bytes at 0x1000: not mapped" ++ "\n" ++
        (Style.boldRed.paint "invalid depth `x`" ++ "\n")⟩) := by
  intro i host lines
  have hParse : Command.parse "3" = .describe "3" := rfl
  have hFree : Command.IsFree "3" := (Command.parse_eq_describe_iff.mp hParse).2
  have hAll := session_answers_each_line i ⟨1, none⟩ lines
  have hReturns := hAll.2.2.2 Registry.builtin_isStandard
  refine ⟨Registry.builtin_isStandard, hFree, hReturns.1, ?_⟩
  have hOutcome : ((retold i ⟨1, none⟩ lines).run host []).outcome = .ok (⟨2, none⟩,
      ⟨Style.boldGreen.paint "smallint\x7b1\x7d" ++ "\n",
        Style.boldRed.paint "error: cannot read 16 bytes at 0x1000: not mapped" ++ "\n" ++
        (Style.boldRed.paint "invalid depth `x`" ++ "\n")⟩) := by decide +kernel
  rw [hAll.1]
  exact yields_of_outcome hOutcome

end Repl

end HeapInspector
