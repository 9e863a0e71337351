import HeapInspector.Proofs.Rendering.Snapshot
import HeapInspector.Proofs.Results.FieldNames

/-! The shape of a rendered tree. What a host shows of an object says how many lines its text has at a
depth, and how each of them begins. References may run in circles, so everything here is by recursion on
the depth, as the rendering is. -/
namespace HeapInspector

open Inquiry Rendering

/-- All fields of an object, if they can be located. -/
def ObjectDescription.shown? (host : Host) (d : ObjectDescription) : Option (List Field) :=
  ((do (← d.fields).all : Inquiry (List Field)).run host []).outcome.toOption

/-- The object that a field leads to: the field is a reference, and what it references can be
described. -/
def Introspector.behind? (i : Introspector) (host : Host) (value : FieldValue) :
    Option ObjectDescription :=
  match value.tagged? with
  | some (.reference address) => ((i.describeObject address).run host []).outcome.toOption
  | _ => none

/-- What a line stands for. -/
inductive LineHead where
  /-- The value that is rendered. -/
  | value
  /-- A field with its name, and the object it leads to if that one is expanded. -/
  | field (level : Nat) (name : String)
  /-- The reason why there are no fields at the level. -/
  | failure (level : Nat)
  deriving DecidableEq, Repr

/-- The line of a field begins with two blanks for each level and no more, with the name behind them. -/
inductive LineHead.Begins : LineHead → String → Prop where
  | value (line : String) : Begins .value line
  | field {level : Nat} {name : String} (hName : Unindented name) (rest : String) :
      Begins (.field level name) (indent level ++ name ++ ":" ++ rest)
  | failure {level : Nat} (rest : String) : Begins (.failure level) (indent level ++ "<" ++ rest)

namespace Introspector

/-- The number of lines that an object takes at a depth. At depth zero there is its own line only. Below
it is one line that tells why there are no fields, or the fields: an object behind a field takes its lines
at a depth less by one, the first of which is the line of the field, and any other field takes one. -/
def lineCount (i : Introspector) (host : Host) : Nat → ObjectDescription → Nat
  | 0, _ => 1
  | depth + 1, d =>
      1 + (d.shown? host).elim 1 fun list =>
        (list.map fun field =>
          if depth = 0 then 1 else (i.behind? host field.value).elim 1 (lineCount i host depth)).sum

/-- What the lines under an object stand for, in order, if its fields are at the level. -/
def outline (i : Introspector) (host : Host) : Nat → Nat → ObjectDescription → List LineHead
  | 0, _, _ => []
  | depth + 1, level, d =>
      (d.shown? host).elim [.failure level] fun list =>
        list.flatMap fun field => .field level field.name ::
          (i.behind? host field.value).elim [] (outline i host depth (level + 1))

end Introspector

namespace Description

def lineCount (i : Introspector) (host : Host) (depth : Nat) : Description → Nat
  | object d => i.lineCount host depth d
  | _ => 1

def outline (i : Introspector) (host : Host) (depth : Nat) : Description → List LineHead
  | object d => .value :: i.outline host depth 1 d
  | _ => [.value]

end Description

namespace Introspector

theorem outline_length (i : Introspector) (host : Host) (depth level : Nat) (d : ObjectDescription) :
    (i.outline host depth level d).length + 1 = i.lineCount host depth d := by
  induction depth generalizing level d with
  | zero => rfl
  | succ depth ih =>
      rw [outline, lineCount, Nat.add_comm]
      congr 1
      cases d.shown? host with
      | none => rfl
      | some list =>
          simp only [Option.elim_some, List.length_flatMap]
          congr 2
          funext field
          cases i.behind? host field.value with
          | none => split <;> rfl
          | some nested =>
              split
              · subst depth
                rfl
              · exact ih (level + 1) nested

/-- Fields stand at the level of the object or further in, as far as the depth goes. -/
theorem level_of_mem_outline {i : Introspector} {host : Host} {depth level found : Nat}
    {name : String} {d : ObjectDescription} (h : .field found name ∈ i.outline host depth level d) :
    level ≤ found ∧ found < level + depth := by
  induction depth generalizing level d with
  | zero => cases h
  | succ depth ih =>
      rw [outline] at h
      cases hShown : d.shown? host with
      | none => simp [hShown] at h
      | some list =>
          rw [hShown, Option.elim_some, List.mem_flatMap] at h
          obtain ⟨field, _, hField⟩ := h
          rcases List.mem_cons.mp hField with hSelf | hBehind
          · cases hSelf
            omega
          · cases hNested : i.behind? host field.value with
            | none =>
                rw [hNested] at hBehind
                cases hBehind
            | some nested =>
                rw [hNested] at hBehind
                have hFound := ih hBehind
                omega

end Introspector

namespace Description

variable {i : Introspector} {host : Host} {description : Description} {depth : Nat}

theorem outline_length (i : Introspector) (host : Host) (depth : Nat) (description : Description) :
    (description.outline i host depth).length = description.lineCount i host depth := by
  cases description with
  | object d => exact i.outline_length host depth 1 d
  | null => rfl
  | smallInt value => rfl

theorem outline_ne_nil (description : Description) : description.outline i host depth ≠ [] := by
  cases description <;> exact List.cons_ne_nil _ _

theorem level_of_mem_outline {level : Nat} {name : String}
    (h : .field level name ∈ description.outline i host depth) : 1 ≤ level ∧ level ≤ depth := by
  cases description with
  | object d =>
      rcases List.mem_cons.mp h with hSelf | hField
      · cases hSelf
      · have hLevel := Introspector.level_of_mem_outline hField
        omega
  | null => simp [outline] at h
  | smallInt value => simp [outline] at h

end Description

variable {answer : Request → Response} {host : Host} {i : Introspector} {d nested : ObjectDescription}
  {list : List Field} {heads more : List LineHead} {first second rendering : Rendering} {c : Char}
  {depth level address : Nat}

theorem ObjectDescription.shown?_of_shows (h : d.decoder.Shows host d.object list) :
    d.shown? host = some list := by
  obtain ⟨fields, hFields, hShow⟩ := h
  have hAll : (d.fields >>= Fields.all).Yields host list := Yields.bind hFields hShow.all
  exact congrArg Except.toOption (hAll [])

theorem ObjectDescription.shown?_of_fails {e : Error} (h : d.fields.Fails host e) :
    d.shown? host = none := by
  have hAll : (d.fields >>= Fields.all).Fails host e := h.bind
  exact congrArg Except.toOption (hAll [])

theorem Introspector.behind?_of_yields (h : (i.describeObject address).Yields host nested) :
    i.behind? host (.tagged (.reference address)) = some nested := by
  simp only [behind?, FieldValue.tagged?, h []]
  rfl

theorem Introspector.behind?_of_fails {e : Error} (h : (i.describeObject address).Fails host e) :
    i.behind? host (.tagged (.reference address)) = none := by
  simp only [behind?, FieldValue.tagged?, h []]
  rfl

theorem Introspector.behind?_of_not_isReference {value : FieldValue} (h : value.isReference = false) :
    i.behind? host value = none := by
  unfold behind?
  split
  · rename_i hReference
    rw [FieldValue.isReference, hReference] at h
    cases h
  · rfl

theorem flat_indent (level : Nat) : Flat (indent level) := by
  rw [indent, flat_ofList]
  intro c hMem
  obtain rfl := List.eq_of_mem_replicate hMem
  decide

/-- The plain text of a rendering is a row of lines, each of them ended. They begin as the heads say, and
none of them has the character in it. -/
structure Rendering.Writes (rendering : Rendering) (c : Char) (heads : List LineHead)
    (lines : List String) : Prop where
  text : rendering.text .plain = String.join (lines.map (· ++ "\n"))
  free : ∀ line ∈ lines, c ∉ line.toList
  begins : List.Forall₂ LineHead.Begins heads lines

namespace Rendering.Writes

variable {lines others : List String} {line : String}

theorem append (hFirst : first.Writes c heads lines) (hSecond : second.Writes c more others) :
    (first ++ second).Writes c (heads ++ more) (lines ++ others) := by
  constructor
  · rw [text_append, hFirst.text, hSecond.text, List.map_append, String.join_append]
  · exact List.forall_mem_append.mpr ⟨hFirst.free, hSecond.free⟩
  · exact List.rel_append hFirst.begins hSecond.begins

theorem one {head : LineHead} (hText : rendering.text .plain = line ++ "\n") (hFree : c ∉ line.toList)
    (hBegins : head.Begins line) : rendering.Writes c [head] [line] := by
  constructor
  · rw [hText, List.map_singleton, String.join_cons, String.join_nil, String.append_empty]
  · exact List.forall_mem_singleton.mpr hFree
  · exact .cons hBegins .nil

theorem not_mem_text (h : rendering.Writes c heads lines) (hOther : c ≠ '\n') :
    c ∉ (rendering.text .plain).toList := by
  rw [h.text, String.toList_join]
  intro hMem
  obtain ⟨_, hEnded, hMem⟩ := List.mem_flatMap.mp hMem
  obtain ⟨line, hLine, rfl⟩ := List.mem_map.mp hEnded
  rw [String.toList_append, List.mem_append] at hMem
  rcases hMem with hMem | hMem
  · exact h.free line hLine hMem
  · exact hOther (List.mem_singleton.mp hMem)

/-- Even the last line is ended. -/
theorem getLast?_text (h : rendering.Writes c heads lines) (hSome : heads ≠ []) :
    (rendering.text .plain).toList.getLast? = some '\n' := by
  have hLines : lines ≠ [] := by
    rintro rfl
    exact hSome (List.forall₂_nil_right_iff.mp h.begins)
  obtain ⟨front, last, rfl⟩ := List.eq_nil_or_concat lines |>.resolve_left hLines
  rw [h.text]
  simp [String.join_append]

/-- The line of what stands behind a name becomes the line of the field. -/
theorem behind_name {name : String} (h : rendering.Writes c (.value :: heads) lines)
    (hControl : c < ' ') (hName : Flat name) (hStart : Unindented name) (level : Nat) :
    ∃ others, Writes ([bare (indent level), ⟨some .fieldName, name⟩, bare ": "] ++ rendering) c
      (.field level name :: heads) others := by
  obtain ⟨hText, hFree, hBegins⟩ := h
  cases hBegins with
  | @cons _ line _ rest _ hRest =>
      refine ⟨(indent level ++ name ++ ":" ++ (" " ++ line)) :: rest, ?_, ?_, .cons (.field hStart _) hRest⟩
      · rw [text_append, hText, ← String.toList_inj]
        simp [Rendering.text, paint_plain, bare]
      · rw [List.forall_mem_cons] at hFree ⊢
        refine ⟨?_, hFree.2⟩
        have hBefore : Flat (indent level ++ name ++ ":" ++ " ") := by
          simp only [flat_append, flat_indent, hName, true_and]
          decide
        rw [← String.append_assoc, String.toList_append, List.mem_append, not_or]
        exact ⟨hBefore.not_mem hControl, hFree.1⟩

theorem flatten {α : Type} {heads : α → List LineHead} {list : List α} {parts : List Rendering}
    (h : List.Forall₂ (fun a part => ∃ lines, Writes part c (heads a) lines) list parts) :
    ∃ lines, Writes parts.flatten c (list.flatMap heads) lines := by
  induction h with
  | nil => exact ⟨[], rfl, nofun, .nil⟩
  | cons hFirst _ ih =>
      obtain ⟨lines, hLines⟩ := hFirst
      obtain ⟨others, hOthers⟩ := ih
      exact ⟨lines ++ others, hLines.append hOthers⟩

end Rendering.Writes

namespace Introspector

theorem endsFlat_describeObject (hReasons : host.GivesFlatReasons) (i : Introspector) (address : Nat) :
    (i.describeObject address).EndsFlat host fun _ => True := by
  unfold describeObject
  split
  · exact .failed (Error.flat_message_decode _ _)
  · have hHeader : (i.arch.readHeader address).EndsFlat host fun _ => True := by
      apply (Architecture.endsFlat_readWords hReasons).bind
      intro words _
      split
      · exact .pure trivial
      · exact .stopped
    exact hHeader.bind fun _ _ => .pure trivial

end Introspector

section

variable (hControl : c < ' ')

include hControl

theorem Rendering.failure_writes {e : Error} (h : Flat e.message) :
    Writes [Rendering.failure e, bare "\n"] c [.value] ["<" ++ e.message ++ ">"] := by
  have hFlat : Flat ("<" ++ e.message ++ ">") := by
    simp only [flat_append, h, and_true]
    decide
  exact .one (by simp [Rendering.text, paint_plain, bare, Rendering.failure]) (hFlat.not_mem hControl)
    (.value _)

theorem FieldValue.render_writes {value : FieldValue} (h : Flat value.display) :
    value.render.Writes c [.value] [value.display] :=
  .one (by simp [Rendering.text, paint_plain, bare, FieldValue.render]) (h.not_mem hControl) (.value _)

namespace ObjectDescription

/-- The lines under an object, if what stands behind the names of its fields is known. -/
theorem exists_fieldLines {expand : FieldValue → Inquiry Rendering} {behind : Field → List LineHead}
    (hShows : d.decoder.Shows host d.object list)
    (hFields : ∀ field ∈ list, Flat field.name ∧ Unindented field.name ∧
      ∃ rest lines, (expand field.value).Yields host rest ∧
        rest.Writes c (.value :: behind field) lines) (level : Nat) :
    ∃ rendering lines, (d.renderFieldLines expand level).Yields host rendering ∧
      rendering.Writes c (list.flatMap fun field => .field level field.name :: behind field) lines := by
  have hEach : ∀ field ∈ list, ∃ part, (field.renderLine expand level).Yields host part ∧
      ∃ lines, part.Writes c (.field level field.name :: behind field) lines := by
    intro field hMem
    obtain ⟨hName, hStart, rest, lines, hRest, hWrites⟩ := hFields field hMem
    exact ⟨_, hRest.bind (.pure _), hWrites.behind_name hControl hName hStart level⟩
  choose! part hYields hWrites using hEach
  have hParts : List.Forall₂ (fun field part => ∃ lines, Rendering.Writes part c
      (.field level field.name :: behind field) lines) list (list.map part) := by
    rw [List.forall₂_map_right_iff, List.forall₂_same]
    exact hWrites
  obtain ⟨lines, hLines⟩ := Rendering.Writes.flatten hParts
  refine ⟨_, lines, yields_renderFieldLines hShows ?_, hLines⟩
  rw [List.forall₂_map_right_iff, List.forall₂_same]
  exact hYields

theorem exists_fieldLines_of_fails {expand : FieldValue → Inquiry Rendering} {e : Error}
    (hFails : d.fields.Fails host e) (hFlat : Flat e.message) (level : Nat) :
    ∃ rendering lines, (d.renderFieldLines expand level).Yields host rendering ∧
      rendering.Writes c [.failure level] lines := by
  refine ⟨_, [indent level ++ "<" ++ (e.message ++ ">")], yields_renderFieldLines_of_fails hFails, ?_⟩
  have hLine : Flat (indent level ++ "<" ++ (e.message ++ ">")) := by
    simp only [flat_append, flat_indent, hFlat, true_and]
    decide
  apply Rendering.Writes.one _ (hLine.not_mem hControl) (.failure _)
  rw [← String.toList_inj]
  simp [Rendering.text, paint_plain, bare, Rendering.failure]

end ObjectDescription

/-- What has to be known of an object for its tree to be told: it has a line of its own, and its fields
are told by texts that are flat, or the reason why there are none is. -/
structure ObjectDescription.Tellable (d : ObjectDescription) (host : Host) (c : Char) : Prop where
  line : ∃ line lines, d.renderLine.Yields host line ∧ line.Writes c [.value] lines
  fields : (∃ list, d.decoder.Shows host d.object list ∧ ∀ field ∈ list,
      Flat field.name ∧ Unindented field.name ∧ Flat field.value.display) ∨
    ∃ e, d.fields.Fails host e ∧ Flat e.message

namespace Introspector

variable (hStandard : i.registry.IsStandard) (hReasons : (Host.still answer).GivesFlatReasons)
  (hNames : ∀ address name, i.typeName address = some name → c ∉ name.toList)

include hStandard hReasons hNames

theorem tellable_of_describeObject (h : (i.describeObject address).Yields (.still answer) d) :
    d.Tellable (.still answer) c := by
  have hMem := i.decoder_mem_standard hStandard h.mayReturn
  have hOrderly := Decoder.orderly_of_mem_standard Conduct.payloads_allows hMem d.object
  have hFlat := Decoder.endsFlat_of_mem_standard hReasons hMem d.object
  constructor
  · have hDisplay := ObjectDescription.not_mem_display hControl (not_mem_typeName hControl hNames h)
    obtain ⟨result, hResult, hOneLine⟩ :=
      ObjectDescription.exists_value hOrderly.value.neverStops hFlat.value
    obtain ⟨line, hLine, hText⟩ := ObjectDescription.exists_renderLine hResult
    exact ⟨line, _, hLine, .one hText (hOneLine c hControl hDisplay) (.value _)⟩
  · rcases yields_or_fails hOrderly.fields.neverStops with ⟨fields, hFields⟩ | ⟨e, hFails⟩
    · obtain ⟨list, hShow⟩ := hOrderly.exists_show hFields
      have hTexts := (hFlat.fields.value [] fields (hFields [])).flat_of_show hShow
      have hStarts : fields.Unindented :=
        Decoder.fields_unindented_of_mem_standard hMem d.object fields hFields.mayReturn
      refine .inl ⟨list, ⟨fields, hFields, hShow⟩, ?_⟩
      intro field hField
      exact ⟨(hTexts field hField).1, hStarts.of_show hShow field hField, (hTexts field hField).2⟩
    · exact .inr ⟨e, hFails, hFlat.fields.error [] e (hFails [])⟩

omit hStandard hReasons hNames in
/-- The lines under an object, if it is known what stands behind the name of a field at the depth. -/
theorem exists_fields_of_expand (hTellable : d.Tellable (.still answer) c)
    (hExpand : ∀ value : FieldValue, Flat value.display →
      ∃ rest lines, (i.expand depth level value).Yields (.still answer) rest ∧
        rest.Writes c (.value :: (i.behind? (.still answer) value).elim []
          (i.outline (.still answer) depth (level + 1))) lines) :
    ∃ rendering lines, (i.renderFields (depth + 1) level d).Yields (.still answer) rendering ∧
      rendering.Writes c (i.outline (.still answer) (depth + 1) level d) lines := by
  rw [renderFields_succ, outline]
  rcases hTellable.fields with ⟨list, hShows, hTexts⟩ | ⟨e, hFails, hMessage⟩
  · rw [ObjectDescription.shown?_of_shows hShows]
    refine ObjectDescription.exists_fieldLines hControl hShows ?_ level
    intro field hField
    obtain ⟨hName, hStart, hValue⟩ := hTexts field hField
    exact ⟨hName, hStart, hExpand field.value hValue⟩
  · rw [ObjectDescription.shown?_of_fails hFails]
    exact ObjectDescription.exists_fieldLines_of_fails hControl hFails hMessage level

/-- By induction on the depth: the object behind a reference may be any other one, the object with the
reference included, but its fields stand there at a depth less by one. -/
theorem exists_expand {value : FieldValue} (hFlat : Flat value.display) :
    ∃ rest lines, (i.expand depth level value).Yields (.still answer) rest ∧
      rest.Writes c (.value :: (i.behind? (.still answer) value).elim []
        (i.outline (.still answer) depth (level + 1))) lines := by
  induction depth generalizing level value with
  | zero =>
      have hUnder : (i.behind? (.still answer) value).elim [] (i.outline (.still answer) 0 (level + 1)) =
          [] := by
        cases i.behind? (.still answer) value <;> rfl
      rw [hUnder]
      exact ⟨_, _, .pure _, value.render_writes hControl hFlat⟩
  | succ depth ih =>
      cases hReference : value.isReference with
      | false =>
          rw [expand_of_not_isReference hReference, behind?_of_not_isReference hReference]
          exact ⟨_, _, .pure _, value.render_writes hControl hFlat⟩
      | true =>
          obtain ⟨address, rfl⟩ := FieldValue.isReference_iff.mp hReference
          have hDescribe := i.meets_describeObject_payloads address
          rcases yields_or_fails hDescribe.neverStops with ⟨nested, hNested⟩ | ⟨e, hFails⟩
          · have hTellable := tellable_of_describeObject hControl hStandard hReasons hNames hNested
            obtain ⟨line, first, hLine, hFirst⟩ := hTellable.line
            obtain ⟨rendering, lines, hYields, hLines⟩ :=
              exists_fields_of_expand hControl hTellable fun _ hValue => ih hValue
            rw [behind?_of_yields hNested]
            exact ⟨_, _, hNested.attempt.bind (hLine.bind (hYields.bind (.pure _))), hFirst.append hLines⟩
          · have hMessage : Flat e.message :=
              (i.endsFlat_describeObject hReasons address).error [] e (hFails [])
            rw [behind?_of_fails hFails]
            exact ⟨_, _, hFails.attempt.bind (.pure _), failure_writes hControl hMessage⟩

theorem exists_renderFields (h : d.Tellable (.still answer) c) (depth level : Nat) :
    ∃ rendering lines, (i.renderFields (depth + 1) level d).Yields (.still answer) rendering ∧
      rendering.Writes c (i.outline (.still answer) (depth + 1) level d) lines :=
  exists_fields_of_expand hControl h fun _ hValue =>
    exists_expand hControl hStandard hReasons hNames hValue

/-- The lines of a value are those of its outline. -/
theorem exists_render {tagged : Tagged} {description : Description}
    (h : (i.describeTagged tagged).Yields (.still answer) description) (depth : Nat) :
    ∃ rendering lines, (i.render depth description).Yields (.still answer) rendering ∧
      rendering.Writes c (description.outline i (.still answer) depth) lines := by
  have hOther {text : String} (hFlat : Flat text) :
      Writes [⟨some .value, text⟩, bare "\n"] c [.value] [text] :=
    .one (by simp [Rendering.text, paint_plain, bare]) (hFlat.not_mem hControl) (.value _)
  cases description with
  | null => exact ⟨_, _, .pure _, hOther (Tagged.flat_display .null)⟩
  | smallInt value => exact ⟨_, _, .pure _, hOther (Tagged.flat_display (.smallInt value))⟩
  | object d =>
      obtain ⟨address, hObject⟩ := exists_describeObject h
      have hTellable := tellable_of_describeObject hControl hStandard hReasons hNames hObject
      obtain ⟨line, first, hLine, hFirst⟩ := hTellable.line
      cases depth with
      | zero => exact ⟨line, first, hLine.bind (.pure _), hFirst⟩
      | succ depth =>
          obtain ⟨rendering, lines, hYields, hLines⟩ :=
            exists_renderFields hControl hStandard hReasons hNames hTellable depth 1
          exact ⟨_, _, hLine.bind (hYields.bind (.pure _)), hFirst.append hLines⟩

end Introspector

end

/-- The text of what is described over an image has the shape of its outline at every depth, as long as no
name of a type has a line feed. It is made, whatever the memory holds, it is a row of ended lines, and
these are as many as are counted: one for each value, and for each object that is not at the bottom one
for each of its fields or one that tells why there are none, with what an object behind a field takes
instead of the line of that field. The line of a field is indented by its level, which the depth bounds. -/
theorem text_follows_outline {image : MemoryImage}
    (hNames : ∀ address name, image.types.nameOf address = some name → '\n' ∉ name.toList)
    {tagged : Tagged} {description : Description}
    (hDescribe : ((image.introspector .builtin).describeTagged tagged).Yields image.host description)
    (depth : Nat) :
    ∃ rendering lines,
      ((image.introspector .builtin).render depth description).Yields image.host rendering ∧
      rendering.text .plain = String.join (lines.map (· ++ "\n")) ∧
      (rendering.text .plain).toList.getLast? = some '\n' ∧
      (∀ line ∈ lines, '\n' ∉ line.toList) ∧
      lines.length = description.lineCount (image.introspector .builtin) image.host depth ∧
      List.Forall₂ LineHead.Begins
        (description.outline (image.introspector .builtin) image.host depth) lines ∧
      ∀ level name,
        .field level name ∈ description.outline (image.introspector .builtin) image.host depth →
        1 ≤ level ∧ level ≤ depth := by
  have hControl : '\n' < ' ' := by decide
  obtain ⟨rendering, lines, hYields, hWrites⟩ := Introspector.exists_render hControl
    Registry.builtin_isStandard image.givesFlatReasons hNames hDescribe depth
  have hCount : lines.length =
      description.lineCount (image.introspector .builtin) image.host depth :=
    hWrites.begins.length_eq.symm.trans (Description.outline_length _ _ depth description)
  exact ⟨rendering, lines, hYields, hWrites.text, hWrites.getLast?_text description.outline_ne_nil,
    hWrites.free, hCount, hWrites.begins, fun _ _ => Description.level_of_mem_outline⟩

/-- A tuple of itself and twice of a symbol. The text of the symbol has a line feed in it, and an escape
character. -/
def MemoryImage.knot : MemoryImage :=
  ⟨⟨.w32, .little⟩,
    [⟨0x1000, [0x2000, 0, 9, 0x1000, 0x1020, 0x1020].flatMap (Architecture.encodeWord ⟨.w32, .little⟩)⟩,
      ⟨0x1020, [0x2200, 0, 16, 0, 99].flatMap (Architecture.encodeWord ⟨.w32, .little⟩) ++
        [0x0a, 0x1b, 0x5b, 0x6d]⟩],
    ⟨[(0x2000, "builtin/Tuple"), (0x2200, "builtin/Symbol")]⟩⟩

/-- Neither the circle nor what two fields share changes the number of lines, and the line feed of the
symbol starts none. -/
theorem text_follows_outline_knot :
    let tuple : ObjectDescription :=
      ⟨⟨⟨.w32, .little⟩, 0x1000, .ofWords 0x2000 0⟩, .named "builtin/Tuple", .slots⟩
    (∀ address name, MemoryImage.knot.types.nameOf address = some name → '\n' ∉ name.toList) ∧
    ((MemoryImage.knot.introspector .builtin).describeTagged (.reference 0x1000)).Yields
      MemoryImage.knot.host (.object tuple) ∧
    ∃ rendering lines,
      ((MemoryImage.knot.introspector .builtin).render 2 (.object tuple)).Yields
        MemoryImage.knot.host rendering ∧
      rendering.text .plain = String.join (lines.map (· ++ "\n")) ∧
      lines.length = 13 ∧
      List.Forall₂ LineHead.Begins
        [.value, .field 1 "[0]", .field 2 "[0]", .field 2 "[1]", .field 2 "[2]",
          .field 1 "[1]", .field 2 "hash", .field 2 "registry_next", .field 2 "text",
          .field 1 "[2]", .field 2 "hash", .field 2 "registry_next", .field 2 "text"] lines := by
  intro tuple
  have hNames : ∀ address name, MemoryImage.knot.types.nameOf address = some name →
      '\n' ∉ name.toList := by
    have hAll : ∀ entry ∈ MemoryImage.knot.types.names, '\n' ∉ entry.2.toList := by decide
    exact fun address name hName => hAll (address, name) (TypeTable.mem_of_nameOf hName)
  have hHeader : ((Architecture.readHeader ⟨.w32, .little⟩ 0x1000).run MemoryImage.knot.host
      []).outcome = .ok (.ofWords 0x2000 0) := by decide +kernel
  have hObject : ((MemoryImage.knot.introspector .builtin).describeObject 0x1000).Yields
      MemoryImage.knot.host tuple := (yields_of_outcome hHeader).bind (.pure _)
  have hDescribe : ((MemoryImage.knot.introspector .builtin).describeTagged
      (.reference 0x1000)).Yields MemoryImage.knot.host (.object tuple) :=
    hObject.bind (.pure _)
  have hCount : (Description.object tuple).lineCount (MemoryImage.knot.introspector .builtin)
      MemoryImage.knot.host 2 = 13 := by decide +kernel
  have hOutline : (Description.object tuple).outline (MemoryImage.knot.introspector .builtin)
      MemoryImage.knot.host 2 =
        [.value, .field 1 "[0]", .field 2 "[0]", .field 2 "[1]", .field 2 "[2]",
          .field 1 "[1]", .field 2 "hash", .field 2 "registry_next", .field 2 "text",
          .field 1 "[2]", .field 2 "hash", .field 2 "registry_next", .field 2 "text"] := by
    decide +kernel
  obtain ⟨rendering, lines, hRendering, hText, _, _, hLength, hBegins, _⟩ :=
    text_follows_outline hNames hDescribe 2
  exact ⟨hNames, hDescribe, rendering, lines, hRendering, hText, hLength.trans hCount,
    hOutline ▸ hBegins⟩

end HeapInspector
