import HeapInspector.Registry
import Mathlib.Data.List.Nodup

/-! Registering decoders, one call after another. A call is refused exactly if its key has a decoder
already, and a refused call leaves no trace. So every key has at most one decoder, the one of the first
call for it, and the order of calls for different keys does not matter. -/
namespace HeapInspector

/-- A decoder with a name of the type that it is to be registered for. -/
structure Registration where
  typeName : String
  decoder : Decoder

namespace Registration

def key (call : Registration) : TypeKey := .ofName call.typeName

def entry (call : Registration) : TypeKey × Decoder := (call.key, call.decoder)

end Registration

namespace Registry

variable {registry : Registry} {call : Registration} {calls others : List Registration}
  {name : String} {decoder : Decoder}

def attempt (registry : Registry) (call : Registration) : Except Error Unit × Registry :=
  registry.register call.typeName call.decoder

/-- The registry that a call leaves behind. -/
def after (registry : Registry) (call : Registration) : Registry := (registry.attempt call).2

/-- The registry behind a sequence of calls. -/
def afterAll (registry : Registry) (calls : List Registration) : Registry :=
  calls.foldl after registry

/-- The calls of a sequence that succeed. -/
def accepted (registry : Registry) : List Registration → List Registration
  | [] => []
  | call :: rest =>
      match registry.attempt call with
      | (.ok (), next) => call :: next.accepted rest
      | (.error _, next) => next.accepted rest

/-- No two decoders are registered under one key. -/
def Unambiguous (registry : Registry) : Prop := registry.keys.Nodup

theorem mem_keys_iff {key : TypeKey} :
    key ∈ registry.keys ↔ ∃ decoder, (key, decoder) ∈ registry.entries := by
  simp [keys]

theorem mem_entries_of_get? (h : registry.get? name = some decoder) :
    (.ofName name, decoder) ∈ registry.entries := by
  obtain ⟨before, after, hEntries, _⟩ := List.lookup_eq_some_iff.mp h
  simp [hEntries]

theorem get?_eq_none_iff : registry.get? name = none ↔ .ofName name ∉ registry.keys := by
  simp only [get?, List.lookup_eq_none_iff, mem_keys_iff, bne_iff_ne, Prod.forall]
  constructor
  · rintro h ⟨decoder, hMem⟩
    exact h _ decoder hMem rfl
  · rintro h key decoder hMem rfl
    exact h ⟨decoder, hMem⟩

theorem contains_iff : registry.contains name = true ↔ .ofName name ∈ registry.keys := by
  rw [contains, Option.isSome_iff_ne_none, Ne, get?_eq_none_iff, not_not]

/-- Of a registry without ambiguity the entries are all there is to know. -/
theorem Unambiguous.get?_eq_some_iff (h : registry.Unambiguous) :
    registry.get? name = some decoder ↔ (.ofName name, decoder) ∈ registry.entries := by
  refine ⟨mem_entries_of_get?, fun hMem => ?_⟩
  cases hGet : registry.get? name with
  | none => exact absurd (mem_keys_iff.mpr ⟨decoder, hMem⟩) (get?_eq_none_iff.mp hGet)
  | some found =>
      have hSame := List.inj_on_of_nodup_map h (mem_entries_of_get? hGet) hMem rfl
      exact congrArg _ (congrArg Prod.snd hSame)

theorem Unambiguous.lookup_of_mem (h : registry.Unambiguous)
    (hMem : (.ofName name, decoder) ∈ registry.entries) : registry.lookup (some name) = decoder := by
  rw [lookup, Option.bind_some, h.get?_eq_some_iff.mpr hMem, Option.getD_some]

theorem lookup_of_not_mem (h : .ofName name ∉ registry.keys) :
    registry.lookup (some name) = Decoder.byLayout := by
  rw [lookup, Option.bind_some, get?_eq_none_iff.mpr h, Option.getD_none]

/-- Two registries with the same entries, in whatever order, look up alike. -/
theorem Unambiguous.lookup_congr {other : Registry} (h : registry.Unambiguous)
    (hOther : other.Unambiguous) (hSame : ∀ entry, entry ∈ registry.entries ↔ entry ∈ other.entries)
    (name : Option String) : registry.lookup name = other.lookup name := by
  have hGet : registry.get? = other.get? := by
    funext name
    apply Option.ext
    intro decoder
    rw [h.get?_eq_some_iff, hOther.get?_eq_some_iff, hSame]
  rw [lookup, lookup, hGet]

theorem attempt_of_mem (h : call.key ∈ registry.keys) :
    registry.attempt call = (.error (.duplicateDecoder call.key.text), registry) :=
  if_pos (contains_iff.mpr h)

theorem attempt_of_not_mem (h : call.key ∉ registry.keys) :
    registry.attempt call = (.ok (), ⟨registry.entries ++ [call.entry]⟩) :=
  if_neg (contains_iff.not.mpr h)

theorem attempt_succeeds_iff : (registry.attempt call).1 = .ok () ↔ call.key ∉ registry.keys := by
  by_cases h : call.key ∈ registry.keys
  · simp [attempt_of_mem h, h]
  · simp [attempt_of_not_mem h, h]

theorem mem_keys_of_attempt {e : Error} (h : (registry.attempt call).1 = .error e) :
    call.key ∈ registry.keys := by
  by_contra hNew
  rw [attempt_of_not_mem hNew] at h
  cases h

theorem after_of_mem (h : call.key ∈ registry.keys) : registry.after call = registry := by
  rw [after, attempt_of_mem h]

theorem after_of_not_mem (h : call.key ∉ registry.keys) :
    registry.after call = ⟨registry.entries ++ [call.entry]⟩ := by
  rw [after, attempt_of_not_mem h]

theorem Unambiguous.after (h : registry.Unambiguous) (call : Registration) :
    (registry.after call).Unambiguous := by
  by_cases hMem : call.key ∈ registry.keys
  · rwa [after_of_mem hMem]
  · have hKeys : (registry.keys ++ [call.key]).Nodup := by
      rw [List.nodup_append_comm]
      exact List.nodup_cons.mpr ⟨hMem, h⟩
    rw [after_of_not_mem hMem]
    simpa [Unambiguous, keys, Registration.entry] using hKeys

theorem afterAll_append (first second : List Registration) :
    registry.afterAll (first ++ second) = (registry.afterAll first).afterAll second :=
  List.foldl_append

theorem Unambiguous.afterAll (h : registry.Unambiguous) (calls : List Registration) :
    (registry.afterAll calls).Unambiguous := by
  induction calls generalizing registry with
  | nil => exact h
  | cons call rest ih => exact ih (h.after call)

/-- Behind a sequence of calls there are the entries from before and those of the calls that succeed. -/
theorem entries_afterAll (registry : Registry) (calls : List Registration) :
    (registry.afterAll calls).entries =
      registry.entries ++ (registry.accepted calls).map Registration.entry := by
  induction calls generalizing registry with
  | nil => simp [afterAll, accepted]
  | cons call rest ih =>
      have hRest := ih (registry.after call)
      change (registry.afterAll (call :: rest)).entries = _ at hRest
      rw [hRest, accepted]
      by_cases h : call.key ∈ registry.keys
      · rw [attempt_of_mem h, after_of_mem h]
      · rw [attempt_of_not_mem h, after_of_not_mem h]
        simp

theorem mem_keys_afterAll_iff {key : TypeKey} : key ∈ (registry.afterAll calls).keys ↔
    key ∈ registry.keys ∨ ∃ call ∈ registry.accepted calls, call.key = key := by
  simp [keys, entries_afterAll, Registration.entry]

/-- Of calls for different keys that are all new, none is refused. -/
theorem accepted_of_new (hDistinct : (calls.map Registration.key).Nodup)
    (hNew : ∀ call ∈ calls, call.key ∉ registry.keys) : registry.accepted calls = calls := by
  induction calls generalizing registry with
  | nil => rfl
  | cons call rest ih =>
      obtain ⟨hFirst, hRest⟩ := List.nodup_cons.mp hDistinct
      have hCall := hNew call List.mem_cons_self
      rw [accepted, attempt_of_not_mem hCall]
      dsimp only
      rw [ih hRest]
      intro other hOther hMem
      have hCases : other.key ∈ registry.keys ∨ other.key = call.key := by
        simpa [keys, Registration.entry] using hMem
      rcases hCases with hOld | hSame
      · exact hNew other (List.mem_cons_of_mem _ hOther) hOld
      · exact hFirst (hSame ▸ List.mem_map_of_mem hOther)

/-- In another order calls for different new keys lead to the same look-ups. -/
theorem lookup_afterAll_perm (h : registry.Unambiguous) (hPerm : calls.Perm others)
    (hDistinct : (calls.map Registration.key).Nodup)
    (hNew : ∀ call ∈ calls, call.key ∉ registry.keys) (name : Option String) :
    (registry.afterAll calls).lookup name = (registry.afterAll others).lookup name := by
  have hOthers := accepted_of_new ((hPerm.map Registration.key).nodup_iff.mp hDistinct)
    fun call hCall => hNew call (hPerm.mem_iff.mpr hCall)
  apply (h.afterAll calls).lookup_congr (h.afterAll others)
  intro entry
  rw [entries_afterAll, entries_afterAll, accepted_of_new hDistinct hNew, hOthers,
    List.mem_append, List.mem_append, (hPerm.map Registration.entry).mem_iff]

/-- The calls for the built-in types, under names that are their own keys. -/
def builtinCalls : List Registration :=
  builtin.entries.map fun (key, decoder) => ⟨key.text, decoder⟩

/-- The decoders of the built-in types can be registered one by one, and none is refused. -/
theorem afterAll_builtinCalls :
    empty.accepted builtinCalls = builtinCalls ∧ empty.afterAll builtinCalls = builtin := by
  have hDistinct : (builtinCalls.map Registration.key).Nodup := by decide +kernel
  have hAccepted : empty.accepted builtinCalls = builtinCalls :=
    accepted_of_new hDistinct fun _ _ => List.not_mem_nil
  have hOwn : ∀ key ∈ builtin.keys, TypeKey.ofName key.text = key := by decide +kernel
  have hEntries : builtinCalls.map Registration.entry = builtin.entries := by
    have hSame : ∀ entry ∈ builtin.entries,
        Registration.entry ⟨entry.1.text, entry.2⟩ = entry := fun entry hMem =>
      congrArg (·, entry.2) (hOwn entry.1 (List.mem_map_of_mem hMem))
    rw [builtinCalls, List.map_map]
    exact (List.map_congr_left hSame).trans (List.map_id _)
  have hBehind := entries_afterAll empty builtinCalls
  rw [hAccepted, hEntries] at hBehind
  exact ⟨hAccepted, congrArg Registry.mk hBehind⟩

theorem empty_unambiguous : empty.Unambiguous := List.nodup_nil

theorem builtin_unambiguous : builtin.Unambiguous := by
  rw [← afterAll_builtinCalls.2]
  exact empty_unambiguous.afterAll builtinCalls

end Registry

open Registry

/-- Every registry that calls lead to, from no decoders or from those of the built-in types. A call
succeeds unless a built-in type or an earlier call that succeeded has its key. Otherwise it is refused
with this key and leaves the registry as it was, so that everything goes on as without it. A name is
looked up as the one decoder that is registered under its key, or as the decoder by layout if there is
none, and so is what has no name. Calls for different keys that are new can be made in any order. -/
theorem registrations_decide_lookups {start : Registry} (hStart : start = .empty ∨ start = .builtin) :
    (∀ before call,
      (((start.afterAll before).attempt call).1 = .ok () ↔
        call.key ∉ start.keys ∧ ∀ earlier ∈ start.accepted before, earlier.key ≠ call.key) ∧
      ∀ e, ((start.afterAll before).attempt call).1 = .error e →
        e = .duplicateDecoder call.key.text ∧
        ((start.afterAll before).attempt call).2 = start.afterAll before ∧
        ∀ rest, start.afterAll (before ++ call :: rest) = start.afterAll (before ++ rest)) ∧
    (∀ calls,
      (start.afterAll calls).entries =
        start.entries ++ (start.accepted calls).map Registration.entry ∧
      (start.afterAll calls).keys.Nodup ∧
      (∀ name decoder, (start.afterAll calls).get? name = some decoder ↔
        (.ofName name, decoder) ∈ (start.afterAll calls).entries) ∧
      (∀ name decoder, (.ofName name, decoder) ∈ (start.afterAll calls).entries →
        (start.afterAll calls).lookup (some name) = decoder) ∧
      (∀ name, .ofName name ∉ (start.afterAll calls).keys →
        (start.afterAll calls).lookup (some name) = Decoder.byLayout) ∧
      (start.afterAll calls).lookup none = Decoder.byLayout) ∧
    ∀ calls others, calls.Perm others → (calls.map Registration.key).Nodup →
      (∀ call ∈ calls, call.key ∉ start.keys) →
      ∀ name, (start.afterAll calls).lookup name = (start.afterAll others).lookup name := by
  have hUnambiguous : start.Unambiguous := by
    rcases hStart with rfl | rfl
    · exact empty_unambiguous
    · exact builtin_unambiguous
  refine ⟨?_, ?_, ?_⟩
  · intro before call
    constructor
    · rw [attempt_succeeds_iff, mem_keys_afterAll_iff]
      simp
    · intro e hRefused
      have hMem := mem_keys_of_attempt hRefused
      rw [attempt_of_mem hMem] at hRefused
      refine ⟨(Except.error.inj hRefused).symm, after_of_mem hMem, fun rest => ?_⟩
      rw [afterAll_append, afterAll_append]
      exact congrArg (·.afterAll rest) (after_of_mem hMem)
  · intro calls
    have hBehind := hUnambiguous.afterAll calls
    exact ⟨entries_afterAll start calls, hBehind, fun _ _ => hBehind.get?_eq_some_iff,
      fun _ _ => hBehind.lookup_of_mem, fun _ => lookup_of_not_mem, rfl⟩
  · exact fun calls others => lookup_afterAll_perm hUnambiguous

/-- Two spellings of one name. The second call is refused, and the name keeps its first decoder. -/
theorem registrations_decide_lookups_function :
    let first : Registration := ⟨"Function", .nil⟩
    let second : Registration := ⟨"builtin/FUNCTION", .bool⟩
    (Registry.builtin.afterAll [first]).attempt second =
      (.error (.duplicateDecoder "function"), Registry.builtin.afterAll [first]) ∧
    (Registry.builtin.afterAll [first, second]).lookup (some "type_function") = Decoder.nil := by
  intro first second
  obtain ⟨hCalls, hLookups, _⟩ := registrations_decide_lookups (.inr (Eq.refl Registry.builtin))
  have hAccepted : Registry.builtin.accepted [first] = [first] :=
    accepted_of_new (by decide +kernel) (by decide +kernel)
  have hSame : first.key = second.key := by decide +kernel
  have hText : second.key.text = "function" := by decide +kernel
  obtain ⟨hSucceeds, hRefused⟩ := hCalls [first] second
  cases hAttempt : ((Registry.builtin.afterAll [first]).attempt second).1 with
  | ok =>
      have hNew := (hSucceeds.mp hAttempt).2 first (by simp [hAccepted])
      exact absurd hSame hNew
  | error e =>
      obtain ⟨rfl, hUnchanged, hTraceless⟩ := hRefused e hAttempt
      refine ⟨Prod.ext (by rw [hAttempt, hText]) hUnchanged, ?_⟩
      rw [show [first, second] = [first] ++ second :: [] from rfl, hTraceless]
      have hName : TypeKey.ofName "type_function" = first.key := by decide +kernel
      apply (hLookups ([first] ++ [])).2.2.2.1
      rw [(hLookups _).1, List.append_nil, hAccepted, hName]
      simp [Registration.entry, first]

end HeapInspector
