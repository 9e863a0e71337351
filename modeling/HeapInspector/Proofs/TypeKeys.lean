import HeapInspector.Proofs.Registrations
import HeapInspector.Proofs.Text.Lowercase

/-! The keys of a registry as names. A key is lower-cased once and for all, but it can itself start with a
qualifier, since at most one is taken away from a name. Under its own text a key is found exactly if it
does not. -/
namespace HeapInspector

namespace TypeKey

variable {key : TypeKey} {leading text rest name : List Char} {qualifier : String}

theorem dropLeading?_eq_some_iff : dropLeading? leading text = some rest ↔ text = leading ++ rest := by
  rw [dropLeading?]
  split
  case isTrue h =>
    obtain ⟨behind, rfl⟩ := List.isPrefixOf_iff_prefix.mp h
    simp
  case isFalse h =>
    have hNone : text ≠ leading ++ rest := by
      rintro rfl
      exact h (List.isPrefixOf_iff_prefix.mpr (List.prefix_append leading rest))
    simp [hNone]

/-- What is left of a name is its end. -/
theorem unqualified_suffix (name : List Char) : unqualified name <:+ name := by
  rw [unqualified]
  cases hFound : qualifiers.findSome? fun qualifier => dropLeading? qualifier.toList name with
  | none => exact List.suffix_refl name
  | some rest =>
      obtain ⟨qualifier, _, hDrop⟩ := List.exists_of_findSome?_eq_some hFound
      rw [dropLeading?_eq_some_iff.mp hDrop]
      exact List.suffix_append _ rest

/-- No qualifier begins with another one. -/
theorem qualifiers_apart : ∀ first ∈ qualifiers, ∀ second ∈ qualifiers,
    first.toList <+: second.toList → first = second := by
  decide +kernel

/-- Behind a qualifier there is one way to take the name apart. -/
theorem unqualified_append (h : qualifier ∈ qualifiers) (rest : List Char) :
    unqualified (qualifier.toList ++ rest) = rest := by
  rw [unqualified]
  cases hFound : qualifiers.findSome? fun other =>
      dropLeading? other.toList (qualifier.toList ++ rest) with
  | none =>
      have hDrop := List.findSome?_eq_none_iff.mp hFound qualifier h
      rw [dropLeading?_eq_some_iff.mpr rfl] at hDrop
      cases hDrop
  | some behind =>
      obtain ⟨other, hOther, hDrop⟩ := List.exists_of_findSome?_eq_some hFound
      have hText := dropLeading?_eq_some_iff.mp hDrop
      have hSame : other = qualifier := by
        rcases List.prefix_or_prefix_of_prefix (hText ▸ List.prefix_append other.toList behind)
          (List.prefix_append qualifier.toList rest) with hFirst | hSecond
        · exact qualifiers_apart other hOther qualifier h hFirst
        · exact (qualifiers_apart qualifier h other hOther hSecond).symm
      rw [hSame] at hText
      exact (List.append_cancel_left hText).symm

/-- The text of the key starts with a qualifier. -/
def IsQualified (key : TypeKey) : Prop :=
  ∃ qualifier ∈ qualifiers, qualifier.toList <+: key.text.toList

instance : DecidablePred IsQualified := fun key =>
  inferInstanceAs (Decidable (∃ qualifier ∈ qualifiers, qualifier.toList <+: key.text.toList))

theorem unqualified_of_not_isQualified (h : ¬ key.IsQualified) :
    unqualified key.text.toList = key.text.toList := by
  have hNone : (qualifiers.findSome? fun qualifier =>
      dropLeading? qualifier.toList key.text.toList) = none := by
    rw [List.findSome?_eq_none_iff]
    intro qualifier hMem
    rw [Option.eq_none_iff_forall_ne_some]
    intro rest hDrop
    exact h ⟨qualifier, hMem, rest, (dropLeading?_eq_some_iff.mp hDrop).symm⟩
  rw [unqualified, hNone, Option.getD_none]

/-- Lower-casing has nothing to do in the text of the key. -/
def IsSettled (key : TypeKey) : Prop := ∀ c ∈ key.text.toList, Lowercase.IsSettled c

theorem isSettled_ofName (name : String) : (ofName name).IsSettled := by
  intro c hMem
  rw [ofName, String.toList_ofList] at hMem
  exact Lowercase.isSettled_of_mem_lower hMem

theorem IsSettled.ofName_text (h : key.IsSettled) :
    ofName key.text = ⟨String.ofList (unqualified key.text.toList)⟩ := by
  have hRest : ∀ c ∈ unqualified key.text.toList, Lowercase.IsSettled c := fun c hMem =>
    h c ((unqualified_suffix _).subset hMem)
  rw [ofName, Lowercase.lower_of_isSettled hRest]

/-- A key that starts with a qualifier is, as a name, the name of the key behind the qualifier. -/
theorem IsSettled.ofName_append (h : key.IsSettled) (hQualifier : qualifier ∈ qualifiers) {rest : String}
    (hText : key.text = qualifier ++ rest) : ofName key.text = ⟨rest⟩ := by
  rw [h.ofName_text, hText, String.toList_append, unqualified_append hQualifier, String.ofList_toList]

/-- A key is its own key as a name exactly if no qualifier leads it. -/
theorem IsSettled.ofName_text_eq_iff (h : key.IsSettled) :
    ofName key.text = key ↔ ¬ key.IsQualified := by
  constructor
  · rintro hOwn ⟨qualifier, hMem, rest, hText⟩
    have hRest : rest = key.text.toList := by
      have hKey := congrArg (·.text.toList) hOwn
      simpa [h.ofName_text, ← hText, unqualified_append hMem] using hKey
    have hEmpty : qualifier.toList = [] := by simpa [hRest] using hText
    have hNonempty : ∀ qualifier ∈ qualifiers, qualifier.toList ≠ [] := by decide
    exact hNonempty qualifier hMem hEmpty
  · intro hPlain
    rw [h.ofName_text, unqualified_of_not_isQualified hPlain, String.ofList_toList]

end TypeKey

namespace Registry

variable {start : Registry} {calls : List Registration} {key : TypeKey}

/-- The built-in types take calls of their own, so that all calls can be made on a registry without
decoders. -/
theorem exists_afterAll_empty (hStart : start = .empty ∨ start = .builtin) (calls : List Registration) :
    ∃ all, start.afterAll calls = empty.afterAll all := by
  rcases hStart with rfl | rfl
  · exact ⟨calls, rfl⟩
  · exact ⟨builtinCalls ++ calls, by rw [afterAll_append, afterAll_builtinCalls.2]⟩

theorem unambiguous_afterAll (hStart : start = .empty ∨ start = .builtin) (calls : List Registration) :
    (start.afterAll calls).Unambiguous := by
  obtain ⟨all, hAll⟩ := exists_afterAll_empty hStart calls
  rw [hAll]
  exact empty_unambiguous.afterAll all

/-- Calls never put anything but the keys of names into a registry. -/
theorem isSettled_of_mem_keys (hStart : start = .empty ∨ start = .builtin)
    (h : key ∈ (start.afterAll calls).keys) : key.IsSettled := by
  obtain ⟨all, hAll⟩ := exists_afterAll_empty hStart calls
  rw [hAll, mem_keys_afterAll_iff] at h
  rcases h with hNone | ⟨call, _, rfl⟩
  · cases hNone
  · exact TypeKey.isSettled_ofName call.typeName

end Registry

open TypeKey Registry

/-- In every registry that calls lead to, from no decoders or from those of the built-in types, a key is
its own key as a name exactly if it does not start with a qualifier. Then its decoder is found under its
text, and a further call under its text is refused as one for this key and changes nothing. A key that
starts with a qualifier leads to the key behind the qualifier, which is another one: whether a decoder is
found under its text, and which, and whether a call under its text is refused, depends on that key
alone. -/
theorem keys_are_names_unless_qualified {start : Registry} (hStart : start = .empty ∨ start = .builtin)
    (calls : List Registration) {key : TypeKey} {decoder : Decoder}
    (hEntry : (key, decoder) ∈ (start.afterAll calls).entries) :
    (ofName key.text = key ↔ ¬ key.IsQualified) ∧
    (¬ key.IsQualified →
      (start.afterAll calls).contains key.text = true ∧
      (start.afterAll calls).get? key.text = some decoder ∧
      ∀ other, (start.afterAll calls).register key.text other =
        (.error (.duplicateDecoder key.text), start.afterAll calls)) ∧
    ∀ qualifier ∈ qualifiers, ∀ rest, key.text = qualifier ++ rest →
      ofName key.text = ⟨rest⟩ ∧ ⟨rest⟩ ≠ key ∧
      ((start.afterAll calls).contains key.text = true ↔ ⟨rest⟩ ∈ (start.afterAll calls).keys) ∧
      (∀ other, (start.afterAll calls).get? key.text = some other ↔
        (⟨rest⟩, other) ∈ (start.afterAll calls).entries) ∧
      ∀ other, ((start.afterAll calls).register key.text other).1 = .ok () ↔
        ⟨rest⟩ ∉ (start.afterAll calls).keys := by
  have hUnambiguous := unambiguous_afterAll hStart calls
  have hKey : key ∈ (start.afterAll calls).keys := mem_keys_iff.mpr ⟨decoder, hEntry⟩
  have hSettled := isSettled_of_mem_keys hStart hKey
  have hOwn := hSettled.ofName_text_eq_iff
  refine ⟨hOwn, fun hPlain => ?_, fun qualifier hQualifier rest hText => ?_⟩
  · have hName := hOwn.mpr hPlain
    have hMem : ofName key.text ∈ (start.afterAll calls).keys := by rwa [hName]
    refine ⟨contains_iff.mpr hMem, ?_, fun other => ?_⟩
    · rwa [hUnambiguous.get?_eq_some_iff, hName]
    · have hCall : (⟨key.text, other⟩ : Registration).key ∈ (start.afterAll calls).keys := hMem
      have hRefused := attempt_of_mem hCall
      rwa [attempt, Registration.key, hName] at hRefused
  · have hName := hSettled.ofName_append hQualifier hText
    have hQualified : key.IsQualified :=
      ⟨qualifier, hQualifier, rest.toList, by rw [hText, String.toList_append]⟩
    refine ⟨hName, fun hSame => hOwn.mp (hName.trans hSame) hQualified, ?_, fun other => ?_,
      fun other => ?_⟩
    · rw [contains_iff, hName]
    · rw [hUnambiguous.get?_eq_some_iff, hName]
    · have hSucceeds : ((start.afterAll calls).attempt ⟨key.text, other⟩).1 = .ok () ↔
          (⟨key.text, other⟩ : Registration).key ∉ _ := attempt_succeeds_iff
      rwa [Registration.key, hName] at hSucceeds

/-- A name in capitals, registered with a qualifier, and found under its key. -/
theorem keys_are_names_unless_qualified_capitals :
    let registry := Registry.builtin.afterAll [⟨"type_METHOD", .bool⟩]
    (⟨"method"⟩, Decoder.bool) ∈ registry.entries ∧ registry.get? "method" = some Decoder.bool ∧
    registry.register "method" .nil = (.error (.duplicateDecoder "method"), registry) := by
  intro registry
  have hAccepted : Registry.builtin.accepted [⟨"type_METHOD", .bool⟩] = [⟨"type_METHOD", .bool⟩] :=
    accepted_of_new (by decide +kernel) (by decide +kernel)
  have hName : ofName "type_METHOD" = ⟨"method"⟩ := by decide +kernel
  have hEntry : (⟨"method"⟩, Decoder.bool) ∈ registry.entries := by
    rw [entries_afterAll, hAccepted, ← hName]
    exact List.mem_append_right _ List.mem_cons_self
  have hPlain : ¬ (⟨"method"⟩ : TypeKey).IsQualified := by decide +kernel
  obtain ⟨_, hFound, hRefused⟩ :=
    (keys_are_names_unless_qualified (.inr rfl) _ hEntry).2.1 hPlain
  exact ⟨hEntry, hFound, hRefused .nil⟩

/-- After a call for a name with two qualifiers, nothing is found under the text of its key, and a call
under this text succeeds. -/
theorem key_with_qualifier_is_not_found :
    let registry := Registry.empty.afterAll [⟨"type_type_x", .bool⟩]
    registry.keys = [⟨"type_x"⟩] ∧ ofName "type_x" = ⟨"x"⟩ ∧
    registry.contains "type_x" = false ∧ (registry.get? "type_x").isNone = true ∧
    (registry.register "type_x" .nil).1.toOption.isSome = true ∧
    (registry.register "type_x" .nil).2.keys = [⟨"type_x"⟩, ⟨"x"⟩] := by
  decide +kernel

end HeapInspector
