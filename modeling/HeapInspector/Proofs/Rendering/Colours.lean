import HeapInspector.Proofs.Rendering.Outline

/-! Colours. A palette decides how spans are painted and nothing else: it has no part in what is read, and
without its control sequences the text is the plain one. For that the plain text must have no escape
character, whatever the memory holds. -/
namespace HeapInspector

open Inquiry Rendering

mutual

/-- The text without its control sequences: each runs from an escape character and an opening
bracket through the next letter `m`. -/
def stripStyles : List Char → List Char
  | '\x1b' :: '[' :: rest => stripSequence rest
  | c :: rest => c :: stripStyles rest
  | [] => []

/-- The text after the control sequence that it begins in. -/
def stripSequence : List Char → List Char
  | 'm' :: rest => stripStyles rest
  | _ :: rest => stripSequence rest
  | [] => []

end

variable {front rest code : List Char}

theorem stripStyles_cons {c : Char} (h : c ≠ '\x1b') (rest : List Char) :
    stripStyles (c :: rest) = c :: stripStyles rest := by
  rw [stripStyles]
  rintro _ rfl
  exact absurd rfl h

theorem stripStyles_append (h : '\x1b' ∉ front) (rest : List Char) :
    stripStyles (front ++ rest) = front ++ stripStyles rest := by
  induction front with
  | nil => rfl
  | cons c front ih =>
      rw [List.mem_cons, not_or] at h
      rw [List.cons_append, stripStyles_cons (Ne.symm h.1), ih h.2, List.cons_append]

theorem stripSequence_append (h : 'm' ∉ code) (rest : List Char) :
    stripSequence (code ++ 'm' :: rest) = stripStyles rest := by
  induction code with
  | nil => rw [List.nil_append, stripSequence]
  | cons c code ih =>
      rw [List.mem_cons, not_or] at h
      rw [List.cons_append, stripSequence, ih h.2]
      rintro rfl
      exact h.1 rfl

/-- A text in a style is the text between two control sequences. -/
theorem Style.stripStyles_paint {style : Style} {text : String}
    (hCode : ∀ code ∈ style.code, 'm' ∉ code.toList) (hText : '\x1b' ∉ text.toList)
    (rest : List Char) :
    stripStyles ((style.paint text).toList ++ rest) = text.toList ++ stripStyles rest := by
  unfold paint
  cases hStyle : style.code with
  | none => exact stripStyles_append hText rest
  | some code =>
      have hZero : 'm' ∉ ['0'] := by decide
      have hOff : stripStyles ("\x1b[0m".toList ++ rest) = stripStyles rest :=
        stripSequence_append hZero rest
      have hOn (rest : List Char) : stripStyles ("\x1b[".toList ++ (code.toList ++ 'm' :: rest)) =
          stripStyles rest := stripSequence_append (hCode code hStyle) rest
      calc stripStyles (("\x1b[" ++ code ++ "m" ++ text ++ "\x1b[0m").toList ++ rest)
        _ = stripStyles ("\x1b[".toList ++
              (code.toList ++ 'm' :: (text.toList ++ ("\x1b[0m".toList ++ rest)))) := by simp
        _ = text.toList ++ stripStyles rest := by rw [hOn, stripStyles_append hText, hOff]

/-- No control sequence of the palette ends inside its code. -/
def Palette.IsStrippable (palette : Palette) : Prop :=
  ∀ role, ∀ code ∈ (palette.style role).code, 'm' ∉ code.toList

theorem Palette.coloured_isStrippable : coloured.IsStrippable := by
  intro role code hCode
  cases role <;> cases hCode <;> decide

theorem Palette.stripStyles_paint {palette : Palette} (hPalette : palette.IsStrippable) {span : Span}
    (hText : '\x1b' ∉ span.text.toList) (rest : List Char) :
    stripStyles ((palette.paint span).toList ++ rest) = span.text.toList ++ stripStyles rest := by
  unfold paint
  cases span.role with
  | none => exact stripStyles_append hText rest
  | some role => exact Style.stripStyles_paint (hPalette role) hText rest

/-- Without its control sequences a painted text is the plain one, as long as that one has no escape
character of its own. -/
theorem Rendering.stripStyles_text {palette : Palette} (hPalette : palette.IsStrippable)
    {rendering : Rendering} (hPlain : '\x1b' ∉ (rendering.text .plain).toList) :
    stripStyles (rendering.text palette).toList = (rendering.text .plain).toList := by
  have hCons (palette : Palette) (span : Span) (rest : Rendering) :
      (text (span :: rest) palette).toList =
        (palette.paint span).toList ++ (text rest palette).toList := by simp [text]
  induction rendering with
  | nil => rfl
  | cons span rest ih =>
      rw [hCons, paint_plain, List.mem_append, not_or] at hPlain
      rw [hCons, hCons, paint_plain, palette.stripStyles_paint hPalette hPlain.1, ih hPlain.2]

namespace Introspector

/-- A value as it is shown with a palette. -/
def print (i : Introspector) (palette : Palette) (depth : Nat) (description : Description) :
    Inquiry String := do
  return (← i.render depth description).text palette

/-- Only the fields of a value as they are shown with a palette. -/
def printFields (i : Introspector) (palette : Palette) (depth : Nat) (description : Description) :
    Inquiry String := do
  return (← i.renderOnlyFields depth description).text palette

end Introspector

/-- Both come to a text, after the same reads. The first text has no escape character, and the second is
the first one with control sequences in it. -/
structure Inquiry.IsPainted (host : Host) (plain painted : Inquiry String) : Prop where
  texts : ∃ text shown, plain.Yields host text ∧ painted.Yields host shown ∧
    '\x1b' ∉ text.toList ∧ stripStyles shown.toList = text.toList
  reads : ∀ past, (painted.run host past).trace = (plain.run host past).trace

theorem Inquiry.Yields.isPainted {host : Host} {inquiry : Inquiry Rendering} {rendering : Rendering}
    {heads : List LineHead} {lines : List String} (h : inquiry.Yields host rendering)
    (hWrites : rendering.Writes '\x1b' heads lines) :
    IsPainted host (do return (← inquiry).text .plain) (do return (← inquiry).text .coloured) := by
  constructor
  · have hFree : '\x1b' ∉ (rendering.text .plain).toList := hWrites.not_mem_text (by decide)
    exact ⟨_, _, h.bind (.pure _), h.bind (.pure _), hFree,
      stripStyles_text Palette.coloured_isStrippable hFree⟩
  · intro past
    rw [run_bind_pure, run_bind_pure]

namespace Introspector

variable {answer : Request → Response} {i : Introspector} {c : Char}

/-- The fields alone are lines as well, with those of the object itself at the left margin. Depth zero
shows as much of them as depth one. -/
theorem exists_renderOnlyFields (hControl : c < ' ') (hStandard : i.registry.IsStandard)
    (hReasons : (Host.still answer).GivesFlatReasons)
    (hNames : ∀ address name, i.typeName address = some name → c ∉ name.toList)
    {tagged : Tagged} {description : Description}
    (h : (i.describeTagged tagged).Yields (.still answer) description) (depth : Nat) :
    ∃ rendering heads lines, (i.renderOnlyFields depth description).Yields (.still answer) rendering ∧
      rendering.Writes c heads lines := by
  have hOther {text : String} (hFlat : Flat text) :
      Writes [bare (text ++ " has no fields\n")] c [.value] [text ++ " has no fields"] := by
    apply Writes.one _ _ (.value _)
    · rw [← String.toList_inj]
      simp [Rendering.text, paint_plain, bare]
    · exact (flat_append.mpr ⟨hFlat, by decide⟩).not_mem hControl
  cases description with
  | null => exact ⟨_, _, _, .pure _, hOther (Tagged.flat_display .null)⟩
  | smallInt value => exact ⟨_, _, _, .pure _, hOther (Tagged.flat_display (.smallInt value))⟩
  | object d =>
      obtain ⟨address, hObject⟩ := exists_describeObject h
      have hTellable := tellable_of_describeObject hControl hStandard hReasons hNames hObject
      have hFields (depth : Nat) :=
        exists_renderFields hControl hStandard hReasons hNames hTellable depth 0
      cases depth with
      | zero =>
          obtain ⟨rendering, lines, hYields, hLines⟩ := hFields 0
          exact ⟨rendering, _, lines, hYields, hLines⟩
      | succ depth =>
          obtain ⟨rendering, lines, hYields, hLines⟩ := hFields depth
          exact ⟨rendering, _, lines, hYields, hLines⟩

end Introspector

/-- Colours add nothing but control sequences to what is described over an image, as long as no name of a
type has an escape character. At every depth the coloured text is made with the same reads as the plain
one, and is the plain one once its control sequences are taken out. So are the fields alone. No text that
the memory holds can bring in a control sequence of its own. -/
theorem colours_only_colour {image : MemoryImage}
    (hNames : ∀ address name, image.types.nameOf address = some name → '\x1b' ∉ name.toList)
    {tagged : Tagged} {description : Description}
    (hDescribe : ((image.introspector .builtin).describeTagged tagged).Yields image.host description)
    (depth : Nat) :
    IsPainted image.host ((image.introspector .builtin).print .plain depth description)
      ((image.introspector .builtin).print .coloured depth description) ∧
    IsPainted image.host ((image.introspector .builtin).printFields .plain depth description)
      ((image.introspector .builtin).printFields .coloured depth description) := by
  have hControl : '\x1b' < ' ' := by decide
  obtain ⟨whole, lines, hWhole, hLines⟩ := Introspector.exists_render hControl
    Registry.builtin_isStandard image.givesFlatReasons hNames hDescribe depth
  obtain ⟨fields, heads, fieldLines, hFields, hFieldLines⟩ := Introspector.exists_renderOnlyFields
    hControl Registry.builtin_isStandard image.givesFlatReasons hNames hDescribe depth
  exact ⟨hWhole.isPainted hLines, hFields.isPainted hFieldLines⟩

/-- The text of the symbol has a control sequence in it, which is told in letters. -/
theorem colours_only_colour_knot :
    let symbol : ObjectDescription :=
      ⟨⟨⟨.w32, .little⟩, 0x1020, .ofWords 0x2200 0⟩, .named "builtin/Symbol", .symbol⟩
    (∀ address name, MemoryImage.knot.types.nameOf address = some name → '\x1b' ∉ name.toList) ∧
    ((MemoryImage.knot.introspector .builtin).describeTagged (.reference 0x1020)).Yields
      MemoryImage.knot.host (.object symbol) ∧
    ∃ shown, ((MemoryImage.knot.introspector .builtin).print .coloured 1 (.object symbol)).Yields
        MemoryImage.knot.host shown ∧
      stripStyles shown.toList =
        ("0x1020 zis_object\x7b type=builtin/Symbol, gc_info=\x7bstate=NEW, marked=false\x7d \x7d " ++
        "\"\\n\\u001b[m\"\n" ++
        "  hash: 99\n" ++
        "  registry_next: null\n" ++
        "  text: \"\\n\\u001b[m\"\n").toList := by
  intro symbol
  have hNames : ∀ address name, MemoryImage.knot.types.nameOf address = some name →
      '\x1b' ∉ name.toList := by
    have hAll : ∀ entry ∈ MemoryImage.knot.types.names, '\x1b' ∉ entry.2.toList := by decide
    exact fun address name hName => hAll (address, name) (TypeTable.mem_of_nameOf hName)
  have hHeader : ((Architecture.readHeader ⟨.w32, .little⟩ 0x1020).run MemoryImage.knot.host
      []).outcome = .ok (.ofWords 0x2200 0) := by decide +kernel
  have hObject : ((MemoryImage.knot.introspector .builtin).describeObject 0x1020).Yields
      MemoryImage.knot.host symbol := (yields_of_outcome hHeader).bind (.pure _)
  have hDescribe : ((MemoryImage.knot.introspector .builtin).describeTagged
      (.reference 0x1020)).Yields MemoryImage.knot.host (.object symbol) :=
    hObject.bind (.pure _)
  have hPlain : (((MemoryImage.knot.introspector .builtin).print .plain 1 (.object symbol)).run
      MemoryImage.knot.host []).outcome =
        .ok ("0x1020 zis_object\x7b type=builtin/Symbol, gc_info=\x7bstate=NEW, marked=false\x7d \x7d " ++
        "\"\\n\\u001b[m\"\n" ++
        "  hash: 99\n" ++
        "  registry_next: null\n" ++
        "  text: \"\\n\\u001b[m\"\n") := by decide +kernel
  obtain ⟨text, shown, hText, hShown, _, hStrip⟩ := (colours_only_colour hNames hDescribe 1).1.texts
  refine ⟨hNames, hDescribe, shown, hShown, ?_⟩
  rw [hStrip, hText.unique (yields_of_outcome hPlain)]

end HeapInspector
