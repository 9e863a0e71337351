import HeapInspector.Proofs.Rendering.Returns
import HeapInspector.Proofs.Results.Texts
import HeapInspector.Proofs.RoundTrip.Objects

/-! Text beside snapshots. Both are made from the value and the fields of an object, each on its own way
and with its own words for what cannot be read. The text of one level can be told from the snapshot, line
by line, and the snapshot marks the fields that a second level goes into. -/
namespace HeapInspector

open Inquiry Rendering

variable {host : Host} {answer : Request → Response} {i : Introspector} {d : ObjectDescription}
  {value : Except Error (Option String)} {list : List Field} {depth level : Nat}

namespace Rendering

theorem paint_plain (span : Span) : Palette.plain.paint span = span.text := by
  unfold Palette.paint
  cases span.role with
  | none => rfl
  | some role => rfl

theorem text_append (first second : Rendering) (palette : Palette) :
    text (first ++ second) palette = text first palette ++ text second palette := by
  simp [text]

theorem text_flatten (parts : List Rendering) (palette : Palette) :
    text parts.flatten palette = String.join (parts.map (text · palette)) := by
  induction parts with
  | nil => rfl
  | cons part rest ih => rw [List.flatten_cons, text_append, ih, List.map_cons, String.join_cons]

end Rendering

/-- The line of an object: what its header tells, and what has become of its value. -/
def ObjectDescription.firstLine (d : ObjectDescription) : Except Error (Option String) → String
  | .ok none => d.display
  | .ok (some value) => d.display ++ " " ++ value
  | .error error => d.display ++ " <" ++ error.message ++ ">"

/-- What a snapshot has for the value. -/
def ObjectSnapshot.valueOf : Except Error (Option String) → Option String
  | .ok value => value
  | .error error => some ("<decode error: " ++ error.message ++ ">")

/-- The snapshot of a description, once it is known what has become of the value and of the fields. -/
def ObjectDescription.snapshotWith (d : ObjectDescription) (value : Except Error (Option String))
    (fields : List FieldSnapshot) (error : Option String) : ObjectSnapshot :=
  ⟨d.address, d.typeName.display, d.header.gcState, d.header.marked, ObjectSnapshot.valueOf value,
    fields, error⟩

/-- The line of a field, one level in. -/
def FieldSnapshot.line (field : FieldSnapshot) : String := "  " ++ field.name ++ ": " ++ field.value

/-- The lines under an object: one for each field, or one that tells why there are none. -/
def ObjectSnapshot.fieldLines (snapshot : ObjectSnapshot) : List String :=
  match snapshot.error with
  | some message => ["  <" ++ message ++ ">"]
  | none => snapshot.fields.map FieldSnapshot.line

namespace ObjectDescription

theorem exists_renderLine (h : d.value.attempt.Yields host value) :
    ∃ line, d.renderLine.Yields host line ∧ line.text .plain = d.firstLine value ++ "\n" := by
  match value, h with
  | .ok (some value), h =>
    refine ⟨_, h.bind (.pure _), ?_⟩
    simp [text, paint_plain, bare, firstLine, String.append_assoc]
  | .ok none, h =>
    refine ⟨_, h.bind (.pure _), ?_⟩
    simp [text, paint_plain, bare, firstLine]
  | .error error, h =>
    refine ⟨_, h.bind (.pure _), ?_⟩
    rw [← String.toList_inj]
    simp [text, paint_plain, bare, Rendering.failure, firstLine]

/-- What the fields of the list become, each by itself, becomes of all of them. -/
theorem yields_renderFieldLines {expand : FieldValue → Inquiry Rendering} {level : Nat}
    {parts : List Rendering} (hShows : d.decoder.Shows host d.object list)
    (hParts : List.Forall₂ (fun field part => (field.renderLine expand level).Yields host part)
      list parts) : (d.renderFieldLines expand level).Yields host parts.flatten := by
  obtain ⟨fields, hFields, hShow⟩ := hShows
  obtain ⟨hLength, hEach⟩ := List.forall₂_iff_get.mp hParts
  have hLines : (forEach (fun index => do (← fields.field index).renderLine expand level)
      (List.range fields.count)).Yields host parts := by
    apply yields_forEach
    rw [List.forall₂_iff_get]
    refine ⟨by rw [List.length_range, hShow.count, hLength], ?_⟩
    intro index hIndex hPart
    have hBefore : index < list.length := hLength ▸ hPart
    simpa using (hShow.field index hBefore).bind (hEach index hBefore hPart)
  unfold renderFieldLines
  exact hFields.attempt.bind (hLines.bind (.pure _))

theorem yields_renderFieldLines_of_fails {expand : FieldValue → Inquiry Rendering} {level : Nat}
    {e : Error} (hFails : d.fields.Fails host e) : (d.renderFieldLines expand level).Yields host
      [bare (indent level), Rendering.failure e, bare "\n"] :=
  hFails.attempt.bind (.pure _)

/-- One level of fields, told from their snapshots. -/
theorem exists_renderFields_one (i : Introspector) (level : Nat)
    (hShows : d.decoder.Shows host d.object list) :
    ∃ lines, (i.renderFields 1 level d).Yields host lines ∧
      lines.text .plain = String.join ((list.map FieldSnapshot.ofField).map fun field =>
        indent level ++ field.name ++ ": " ++ field.value ++ "\n") := by
  let part (field : Field) : Rendering :=
    [bare (indent level), ⟨some .fieldName, field.name⟩, bare ": "] ++ field.value.render
  have hText (field : Field) : text (part field) .plain =
      indent level ++ field.name ++ ": " ++ field.value.display ++ "\n" := by
    simp [part, text, paint_plain, bare, FieldValue.render, String.append_assoc]
  refine ⟨(list.map part).flatten, yields_renderFieldLines hShows ?_, ?_⟩
  · rw [List.forall₂_map_right_iff, List.forall₂_same]
    exact fun field _ => (Yields.pure _).bind (.pure _)
  · rw [text_flatten, List.map_map, List.map_map]
    exact congrArg _ (List.map_congr_left fun field _ => hText field)

theorem yields_snapshot (hValue : d.value.attempt.Yields host value)
    (hShows : d.decoder.Shows host d.object list) :
    d.snapshot.Yields host (d.snapshotWith value (list.map FieldSnapshot.ofField) none) := by
  obtain ⟨fields, hFields, hShow⟩ := hShows
  exact hValue.bind (Yields.bind hFields.attempt (hShow.all.bind (Yields.bind (.pure _) (.pure _))))

theorem yields_snapshot_of_fails {e : Error} (hValue : d.value.attempt.Yields host value)
    (hFails : d.fields.Fails host e) :
    d.snapshot.Yields host (d.snapshotWith value [] (some e.message)) :=
  hValue.bind (hFails.attempt.bind (.pure _))

/-- The value is told on one line. -/
theorem exists_value (hNever : d.value.NeverStops)
    (hFlat : d.value.EndsFlat (.still answer) fun value => ∀ text ∈ value, Flat text) :
    ∃ value, d.value.attempt.Yields (.still answer) value ∧
      ∀ c < ' ', c ∉ d.display.toList → c ∉ (d.firstLine value).toList := by
  rcases yields_or_fails hNever with ⟨value, hValue⟩ | ⟨e, hFails⟩
  · refine ⟨.ok value, hValue.attempt, ?_⟩
    intro c hControl hDisplay
    cases value with
    | none => exact hDisplay
    | some text =>
        have hText : Flat (" " ++ text) :=
          flat_append.mpr ⟨by decide, hFlat.value [] _ (hValue []) text rfl⟩
        rw [firstLine, String.append_assoc, String.toList_append, List.mem_append, not_or]
        exact ⟨hDisplay, hText.not_mem hControl⟩
  · refine ⟨.error e, hFails.attempt, ?_⟩
    intro c hControl hDisplay
    have hMessage : Flat e.message := hFlat.error [] e (hFails [])
    have hOpen : Flat " <" := by decide
    have hClose : Flat ">" := by decide
    simp only [firstLine, String.toList_append, List.mem_append, not_or]
    exact ⟨⟨⟨hDisplay, hOpen.not_mem hControl⟩, hMessage.not_mem hControl⟩, hClose.not_mem hControl⟩

end ObjectDescription

theorem FieldValue.isReference_iff {value : FieldValue} :
    value.isReference = true ↔ ∃ address, value = .tagged (.reference address) := by
  cases value with
  | tagged value => cases value <;> simp [isReference, tagged?, Tagged.isReference]
  | _ => simp [isReference, tagged?]

namespace Introspector

/-- What stands behind the name of a field, with as many levels under it as the depth says. -/
def expand (i : Introspector) : Nat → Nat → FieldValue → Inquiry Rendering
  | 0, _, value => return value.render
  | depth + 1, level, value =>
      match value.tagged? with
      | some (.reference address) => do
          match ← (i.describeObject address).attempt with
          | .ok nested =>
              let line ← nested.renderLine
              return line ++ (← i.renderFields (depth + 1) (level + 1) nested)
          | .error error => return [Rendering.failure error, bare "\n"]
      | _ => return value.render

theorem renderFields_succ (i : Introspector) (depth level : Nat) (d : ObjectDescription) :
    i.renderFields (depth + 1) level d = d.renderFieldLines (i.expand depth level) level := by
  cases depth with
  | zero => rfl
  | succ depth => rfl

theorem expand_of_not_isReference {value : FieldValue} (h : value.isReference = false) :
    i.expand depth level value = return value.render := by
  cases depth with
  | zero => rfl
  | succ depth =>
      rw [expand]
      split
      · rename_i hReference
        rw [FieldValue.isReference, hReference] at h
        cases h
      · rfl

/-- What stands behind a reference that is followed: the line of the object there with its fields, or why
it cannot be described. -/
def Follows (i : Introspector) (host : Host) (address : Nat) (behind : Rendering) : Prop :=
  (∃ nested line lines, (i.describeObject address).Yields host nested ∧
    nested.renderLine.Yields host line ∧ (i.renderFields 1 2 nested).Yields host lines ∧
    behind = line ++ lines) ∨
  ∃ e, (i.describeObject address).Fails host e ∧ behind = [Rendering.failure e, bare "\n"]

/-- The text of a field that is followed if its snapshot marks it as a reference. Otherwise it stands as
it does at one level. -/
def GoesInto (i : Introspector) (host : Host) (field : Field) (part : Rendering) : Prop :=
  ∃ behind, part = [bare (indent 1), ⟨some .fieldName, field.name⟩, bare ": "] ++ behind ∧
    ((FieldSnapshot.ofField field).reference = true →
      ∃ address, field.value = .tagged (.reference address) ∧ i.Follows host address behind) ∧
    ((FieldSnapshot.ofField field).reference = false → behind = field.value.render)

theorem exists_follows (answer : Request → Response) (hStandard : i.registry.IsStandard) (address : Nat) :
    ∃ behind, i.Follows (.still answer) address behind ∧
      (i.expand 1 1 (.tagged (.reference address))).Yields (.still answer) behind := by
  have hDescribe := i.meets_describeObject_payloads address
  rcases yields_or_fails hDescribe.neverStops with ⟨nested, hNested⟩ | ⟨e, hFails⟩
  · have hNever := neverStops_of_mayReturn hStandard.neverStops hNested.mayReturn
    obtain ⟨line, hLine⟩ := exists_yields (ObjectDescription.renderLine_alwaysReturns hNever)
    obtain ⟨lines, hLines⟩ := exists_yields (renderFields_alwaysReturns hStandard.neverStops 2 hNever)
    refine ⟨line ++ lines, .inl ⟨nested, line, lines, hNested, hLine, hLines, rfl⟩, ?_⟩
    exact hNested.attempt.bind (hLine.bind (hLines.bind (.pure _)))
  · exact ⟨_, .inr ⟨e, hFails, rfl⟩, hFails.attempt.bind (.pure _)⟩

theorem exists_goesInto (hStandard : i.registry.IsStandard)
    (hShows : d.decoder.Shows (.still answer) d.object list) :
    ∃ parts, (i.renderFields 2 1 d).Yields (.still answer) parts.flatten ∧
      List.Forall₂ (i.GoesInto (.still answer)) list parts := by
  have hEach (field : Field) : ∃ part, i.GoesInto (.still answer) field part ∧
      (field.renderLine (i.expand 1 1) 1).Yields (.still answer) part := by
    obtain ⟨name, value⟩ := field
    cases hReference : value.isReference with
    | true =>
        obtain ⟨address, rfl⟩ := FieldValue.isReference_iff.mp hReference
        obtain ⟨behind, hFollows, hBehind⟩ := exists_follows answer hStandard address
        refine ⟨_, ⟨behind, rfl, fun _ => ⟨address, rfl, hFollows⟩, ?_⟩, hBehind.bind (.pure _)⟩
        exact fun hOther => absurd (hReference.symm.trans hOther) (by decide)
    | false =>
        refine ⟨_, ⟨value.render, rfl, ?_, fun _ => rfl⟩, ?_⟩
        · exact fun hOther => absurd (hReference.symm.trans hOther) (by decide)
        · unfold Field.renderLine
          dsimp only
          rw [expand_of_not_isReference hReference]
          exact (Yields.pure _).bind (.pure _)
  choose part hPart using hEach
  refine ⟨list.map part, ?_, ?_⟩
  · rw [renderFields_succ]
    apply ObjectDescription.yields_renderFieldLines hShows
    rw [List.forall₂_map_right_iff, List.forall₂_same]
    exact fun field _ => (hPart field).2
  · rw [List.forall₂_map_right_iff, List.forall₂_same]
    exact fun field _ => (hPart field).1

end Introspector

namespace Introspector

theorem exists_describeObject {tagged : Tagged}
    (h : (i.describeTagged tagged).Yields (.still answer) (.object d)) :
    ∃ address, (i.describeObject address).Yields (.still answer) d := by
  cases tagged with
  | null => cases h []
  | smallInt value => cases h []
  | reference address =>
      obtain ⟨found, hFound, hSame⟩ := exists_yields_of_bind h
      cases (Yields.pure _).unique hSame
      exact ⟨address, hFound⟩

/-- A name of a type is one that the introspector has for some address. -/
theorem not_mem_typeName {c : Char} (hControl : c < ' ')
    (hNames : ∀ address name, i.typeName address = some name → c ∉ name.toList) {address : Nat}
    (h : (i.describeObject address).Yields (.still answer) d) :
    c ∉ d.typeName.display.toList := by
  unfold describeObject at h
  split at h
  · exact absurd h not_yields_fail
  · obtain ⟨header, _, hSame⟩ := exists_yields_of_bind h
    cases (Yields.pure _).unique hSame
    dsimp only
    cases hName : i.typeName header.typeAddress with
    | some name => exact hNames _ name hName
    | none =>
        have hFlat : Flat (TypeName.unnamed header.typeAddress).display := by
          simp only [TypeName.display, flat_append, Numeral.flat_hex, and_true]
          decide
        exact hFlat.not_mem hControl

end Introspector

/-- The text of an object at one level, told from its snapshot and from what its value has come to. -/
structure ObjectSnapshot.Tells (snapshot : ObjectSnapshot) (d : ObjectDescription)
    (result : Except Error (Option String)) (text : String) : Prop where
  value : snapshot.value = valueOf result
  unlocated : snapshot.error.isSome → snapshot.fields = []
  text : text = String.join ((d.firstLine result :: snapshot.fieldLines).map (· ++ "\n"))
  lines : ∀ line ∈ d.firstLine result :: snapshot.fieldLines, '\n' ∉ line.toList

theorem ObjectSnapshot.flat_fieldLines {list : List Field}
    (h : ∀ field ∈ list, Flat field.name ∧ Flat field.value.display) :
    ∀ line ∈ (list.map FieldSnapshot.ofField).map FieldSnapshot.line, Flat line := by
  intro line hMem
  rw [List.map_map] at hMem
  obtain ⟨field, hField, rfl⟩ := List.mem_map.mp hMem
  have hIndent : Flat "  " := by decide
  have hColon : Flat ": " := by decide
  exact flat_append.mpr ⟨flat_append.mpr ⟨flat_append.mpr ⟨hIndent, (h field hField).1⟩, hColon⟩,
    (h field hField).2⟩

namespace ObjectDescription

/-- The text of an object whose fields are located. -/
theorem exists_tells_of_shows (i : Introspector) (hValue : d.value.attempt.Yields host value)
    (hShows : d.decoder.Shows host d.object list) (hFirst : '\n' ∉ (d.firstLine value).toList)
    (hFlat : ∀ field ∈ list, Flat field.name ∧ Flat field.value.display) :
    ∃ rendering, (i.render 1 (.object d)).Yields host rendering ∧
      (d.snapshotWith value (list.map FieldSnapshot.ofField) none).Tells d value
        (rendering.text .plain) := by
  obtain ⟨line, hLine, hLineText⟩ := exists_renderLine hValue
  obtain ⟨lines, hLines, hText⟩ := exists_renderFields_one i 1 hShows
  refine ⟨line ++ lines, hLine.bind (hLines.bind (.pure _)), rfl, ?_, ?_, ?_⟩
  · exact fun hSome => absurd hSome Bool.false_ne_true
  · rw [text_append, hLineText, hText, List.map_cons, String.join_cons]
    simp only [snapshotWith, ObjectSnapshot.fieldLines, List.map_map]
    rfl
  · rw [List.forall_mem_cons]
    refine ⟨hFirst, ?_⟩
    intro line hMem
    exact (ObjectSnapshot.flat_fieldLines hFlat line hMem).not_mem (by decide)

/-- The text of an object whose fields cannot be located. -/
theorem exists_tells_of_fails {e : Error} (i : Introspector)
    (hValue : d.value.attempt.Yields host value) (hFails : d.fields.Fails host e)
    (hFirst : '\n' ∉ (d.firstLine value).toList) (hFlat : Flat e.message) :
    ∃ rendering, (i.render 1 (.object d)).Yields host rendering ∧
      (d.snapshotWith value [] (some e.message)).Tells d value (rendering.text .plain) := by
  obtain ⟨line, hLine, hLineText⟩ := exists_renderLine hValue
  have hLines : (i.renderFields 1 1 d).Yields host
      [bare (indent 1), Rendering.failure e, bare "\n"] := yields_renderFieldLines_of_fails hFails
  refine ⟨line ++ _, hLine.bind (hLines.bind (.pure _)), rfl, fun _ => rfl, ?_, ?_⟩
  · rw [text_append, hLineText, List.map_cons, String.join_cons, ← String.toList_inj]
    simp [snapshotWith, ObjectSnapshot.fieldLines, text, paint_plain, bare, indent,
      Rendering.failure]
  · rw [List.forall_mem_cons]
    refine ⟨hFirst, ?_⟩
    intro line hMem
    have hError : Flat ("  <" ++ e.message ++ ">") := by
      simp only [flat_append, hFlat, and_true]
      decide
    rw [List.mem_singleton.mp hMem]
    exact hError.not_mem (by decide)

end ObjectDescription

/-- Text and snapshot tell the same of an object that is described over an image, as long as no name of a
type has a line feed. Both are made, whatever the memory holds. The text of one level is one line for the
object, with the value or the error in its place, and one line for each field of the snapshot, or one for
the error that the snapshot has in place of the fields. The fields that are marked as references are those
that the text of two levels follows. -/
theorem text_follows_snapshot {image : MemoryImage}
    (hNames : ∀ address name, image.types.nameOf address = some name → '\n' ∉ name.toList)
    {tagged : Tagged}
    (hDescribe : ((image.introspector .builtin).describeTagged tagged).Yields image.host
      (.object d)) :
    ∃ result snapshot rendering, d.value.attempt.Yields image.host result ∧
      d.snapshot.Yields image.host snapshot ∧
      ((image.introspector .builtin).render 1 (.object d)).Yields image.host rendering ∧
      snapshot.Tells d result (rendering.text .plain) ∧
      (snapshot.error = none → ∃ list parts, d.decoder.Shows image.host d.object list ∧
        snapshot.fields = list.map FieldSnapshot.ofField ∧
        ((image.introspector .builtin).renderFields 2 1 d).Yields image.host parts.flatten ∧
        List.Forall₂ ((image.introspector .builtin).GoesInto image.host) list parts) := by
  have hControl : '\n' < ' ' := by decide
  obtain ⟨address, hObject⟩ := Introspector.exists_describeObject hDescribe
  have hMem := (image.introspector .builtin).decoder_mem_standard Registry.builtin_isStandard
    hObject.mayReturn
  have hOrderly := Decoder.orderly_of_mem_standard Conduct.payloads_allows hMem d.object
  have hFlat := Decoder.endsFlat_of_mem_standard image.givesFlatReasons hMem d.object
  have hDisplay := ObjectDescription.not_mem_display hControl
    (Introspector.not_mem_typeName hControl hNames hObject)
  obtain ⟨result, hResult, hOneLine⟩ :=
    ObjectDescription.exists_value hOrderly.value.neverStops hFlat.value
  have hFirst := hOneLine _ hControl hDisplay
  rcases yields_or_fails hOrderly.fields.neverStops with ⟨fields, hFields⟩ | ⟨e, hFails⟩
  · obtain ⟨list, hShow⟩ := hOrderly.exists_show hFields
    have hShows : d.decoder.Shows image.host d.object list := ⟨fields, hFields, hShow⟩
    have hEach := (hFlat.fields.value [] fields (hFields [])).flat_of_show hShow
    obtain ⟨rendering, hRendering, hTells⟩ := ObjectDescription.exists_tells_of_shows
      (image.introspector .builtin) hResult hShows hFirst hEach
    obtain ⟨parts, hParts, hGoes⟩ :=
      (image.introspector .builtin).exists_goesInto Registry.builtin_isStandard hShows
    exact ⟨result, _, rendering, hResult, ObjectDescription.yields_snapshot hResult hShows,
      hRendering, hTells, fun _ => ⟨list, parts, hShows, rfl, hParts, hGoes⟩⟩
  · have hMessage : Flat e.message := hFlat.fields.error [] e (hFails [])
    obtain ⟨rendering, hRendering, hTells⟩ := ObjectDescription.exists_tells_of_fails
      (image.introspector .builtin) hResult hFails hFirst hMessage
    exact ⟨result, _, rendering, hResult,
      ObjectDescription.yields_snapshot_of_fails hResult hFails, hRendering, hTells,
      fun hNone => absurd hNone (Option.some_ne_none _)⟩

/-- A symbol with a link and with a text that is not valid. -/
def MemoryImage.brokenSymbol : MemoryImage :=
  ⟨⟨.w32, .big⟩, [⟨0x5000, [0x2200, 0, 15, 0x3000, 99].flatMap (Architecture.encodeWord ⟨.w32, .big⟩) ++
    [0x61, 0xff, 0]⟩], ⟨[(0x2200, "builtin/Symbol")]⟩⟩

/-- The value fails while the fields do not, and neither does the text. -/
theorem text_follows_snapshot_broken_symbol :
    let symbol : ObjectDescription :=
      ⟨⟨⟨.w32, .big⟩, 0x5000, .ofWords 0x2200 0⟩, .named "builtin/Symbol", .symbol⟩
    (∀ address name, MemoryImage.brokenSymbol.types.nameOf address = some name →
      '\n' ∉ name.toList) ∧
    ((MemoryImage.brokenSymbol.introspector .builtin).describeTagged (.reference 0x5000)).Yields
      MemoryImage.brokenSymbol.host (.object symbol) ∧
    ∃ rendering, ((MemoryImage.brokenSymbol.introspector .builtin).render 1 (.object symbol)).Yields
        MemoryImage.brokenSymbol.host rendering ∧
      rendering.text .plain =
        "0x5000 zis_object\x7b type=builtin/Symbol, gc_info=\x7bstate=NEW, marked=false\x7d \x7d " ++
        "<cannot decode object at 0x5000: text is not valid UTF-8>\n" ++
        "  hash: 99\n" ++
        "  registry_next: 0x3000\n" ++
        "  text: <decode error: cannot decode object at 0x5000: text is not valid UTF-8>\n" := by
  intro symbol
  have hNames : ∀ address name, MemoryImage.brokenSymbol.types.nameOf address = some name →
      '\n' ∉ name.toList := by
    intro address name hName
    obtain ⟨before, after, hEntries, _⟩ := List.lookup_eq_some_iff.mp hName
    have hAll : ∀ entry ∈ MemoryImage.brokenSymbol.types.names, '\n' ∉ entry.2.toList := by decide
    exact hAll (address, name) (by simp [hEntries])
  have hHeader : ((Architecture.readHeader ⟨.w32, .big⟩ 0x5000).run MemoryImage.brokenSymbol.host
      []).outcome = .ok (.ofWords 0x2200 0) := by decide +kernel
  have hObject : ((MemoryImage.brokenSymbol.introspector .builtin).describeObject 0x5000).Yields
      MemoryImage.brokenSymbol.host symbol := (yields_of_outcome hHeader).bind (.pure _)
  have hDescribe : ((MemoryImage.brokenSymbol.introspector .builtin).describeTagged
      (.reference 0x5000)).Yields MemoryImage.brokenSymbol.host (.object symbol) :=
    hObject.bind (.pure _)
  have hValue : ((symbol.value.attempt).run MemoryImage.brokenSymbol.host []).outcome =
      .ok (.error (.decode 0x5000 .invalidUtf8)) := by decide +kernel
  have hSnapshot : (symbol.snapshot.run MemoryImage.brokenSymbol.host []).outcome =
      .ok ⟨0x5000, "builtin/Symbol", .new, false,
        some "<decode error: cannot decode object at 0x5000: text is not valid UTF-8>",
        [⟨"hash", "99", false⟩, ⟨"registry_next", "0x3000", true⟩,
          ⟨"text", "<decode error: cannot decode object at 0x5000: text is not valid UTF-8>", false⟩],
        none⟩ := by decide +kernel
  obtain ⟨result, snapshot, rendering, hResult, hTaken, hRendering, hTells, _⟩ :=
    text_follows_snapshot hNames hDescribe
  refine ⟨hNames, hDescribe, rendering, hRendering, ?_⟩
  rw [hTells.text, hResult.unique (yields_of_outcome hValue),
    hTaken.unique (yields_of_outcome hSnapshot)]
  decide +kernel

end HeapInspector
