import HeapInspector.CommandLine.Run
import HeapInspector.Proofs.Text.Blank
import HeapInspector.Proofs.TypeTable.Members

/-! Edits of a table, one after another. A name may be inserted at an address, which always succeeds, or an
entry may be added, which succeeds if it is of the right form and its address is a word. An edit that
fails leaves no trace, so that a table shows what the edits that succeed have inserted last. The entries of
a command line are such edits, of which none may fail. -/
namespace HeapInspector.TypeTable

variable {table next start : TypeTable} {entry name address : String} {before : List Char}

/-- What can be done to a table. -/
inductive Edit where
  | insert (name : String) (address : Nat)
  | entry (text : String)
  deriving DecidableEq, Repr

/-- What an edit comes to, and the table that it leaves behind. -/
def Edit.apply (table : TypeTable) : Edit → Except Fault Unit × TypeTable
  | .insert name address => (.ok (), table.insert address name)
  | .entry text => table.addEntry text

/-- The name and the address of an edit, if it succeeds. -/
def Edit.insertion? : Edit → Option (Nat × String)
  | .insert name address => some (address, name)
  | .entry text => do
      let (name, address) ← splitEntry? text
      let word ← (parseWord address).toOption
      return (word, name)

/-- The table that an edit leaves behind. -/
def after (table : TypeTable) (edit : Edit) : TypeTable := (edit.apply table).2

/-- The table behind a sequence of edits. -/
def afterAll (table : TypeTable) (edits : List Edit) : TypeTable := edits.foldl after table

/-- The text is divided at its first equals sign into a part that has the name in it, with nothing but
white space around, and the text of the address. -/
def IsEntry (entry name address : String) : Prop :=
  ∃ before, entry.toList = before ++ '=' :: address.toList ∧ '=' ∉ before ∧
    Blank.trim before = name.toList ∧ name ≠ ""

theorem takeWhile_before (h : '=' ∉ before) (rest : List Char) :
    (before ++ '=' :: rest).takeWhile (· ≠ '=') = before ∧
      (before ++ '=' :: rest).dropWhile (· ≠ '=') = '=' :: rest := by
  have hEach : ∀ c ∈ before, decide (c ≠ '=') = true := by
    intro c hc
    exact decide_eq_true (fun hSame => h (hSame ▸ hc))
  rw [List.takeWhile_append_of_pos hEach, List.dropWhile_append_of_pos hEach]
  simp

theorem splitEntry?_eq_some_iff :
    splitEntry? entry = some (name, address) ↔ IsEntry entry name address := by
  constructor
  · intro h
    unfold splitEntry? at h
    dsimp only at h
    split at h
    · rename_i c rest hDrop
      split_ifs at h with hEmpty
      cases h
      have hEquals : c = '=' := by
        have hFirst := List.head?_dropWhile_not (· ≠ '=') entry.toList
        rw [hDrop] at hFirst
        simpa using hFirst
      subst hEquals
      refine ⟨entry.toList.takeWhile (· ≠ '='), ?_, ?_, (String.toList_ofList).symm, ?_⟩
      · rw [String.toList_ofList, ← hDrop, List.takeWhile_append_dropWhile]
      · intro hMem
        simpa using List.mem_takeWhile_imp hMem
      · simpa using hEmpty
    · cases h
  · rintro ⟨before, hEntry, hBefore, hName, hSome⟩
    obtain ⟨hTake, hDrop⟩ := takeWhile_before hBefore address.toList
    unfold splitEntry?
    rw [hEntry, hTake, hDrop, hName]
    simp [hSome]

theorem splitEntry?_eq_none_iff :
    splitEntry? entry = none ↔ ∀ name address, ¬ IsEntry entry name address := by
  simp only [Option.eq_none_iff_forall_ne_some, Prod.forall, ne_eq, splitEntry?_eq_some_iff]

theorem isEntry_iff_of_split (h : splitEntry? entry = some (name, address)) {otherName otherAddress : String} :
    IsEntry entry otherName otherAddress ↔ name = otherName ∧ address = otherAddress := by
  rw [← splitEntry?_eq_some_iff, h, Option.some.injEq, Prod.mk.injEq]

theorem addEntry_eq_ok_iff : table.addEntry entry = (.ok (), next) ↔ ∃ name address word,
    IsEntry entry name address ∧ parseWord address = .ok word ∧ next = table.insert word name := by
  rw [addEntry]
  cases hSplit : splitEntry? entry with
  | none =>
      refine iff_of_false (by simp) ?_
      rintro ⟨name, address, _, hEntry, _⟩
      exact splitEntry?_eq_none_iff.mp hSplit name address hEntry
  | some parts =>
      obtain ⟨name, address⟩ := parts
      simp only [isEntry_iff_of_split hSplit]
      constructor
      · intro h
        split at h
        · rename_i word hWord
          exact ⟨name, address, word, ⟨rfl, rfl⟩, hWord, (congrArg Prod.snd h).symm⟩
        · cases h
      · rintro ⟨_, _, word, ⟨rfl, rfl⟩, hWord, rfl⟩
        rw [hWord]

theorem addEntry_eq_error_iff {fault : Fault} : table.addEntry entry = (.error fault, next) ↔
    ((∀ name address, ¬ IsEntry entry name address) ∧ fault = .entry entry ∨
      ∃ name address cause, IsEntry entry name address ∧ parseWord address = .error cause ∧
        fault = .address cause) ∧ next = table := by
  rw [addEntry]
  cases hSplit : splitEntry? entry with
  | none =>
      have hNone := splitEntry?_eq_none_iff.mp hSplit
      simp [hNone, eq_comm]
  | some parts =>
      obtain ⟨name, address⟩ := parts
      have hEntry := splitEntry?_eq_some_iff.mp hSplit
      have hSome : ¬ ∀ name address, ¬ IsEntry entry name address :=
        fun hNone => hNone name address hEntry
      rw [or_iff_right (fun h => hSome h.1)]
      simp only [isEntry_iff_of_split hSplit]
      constructor
      · intro h
        split at h
        · cases h
        · rename_i cause hCause
          cases h
          exact ⟨⟨name, address, cause, ⟨rfl, rfl⟩, hCause, rfl⟩, rfl⟩
      · rintro ⟨⟨_, _, cause, ⟨rfl, rfl⟩, hCause, rfl⟩, rfl⟩
        rw [hCause]

/-- An edit makes its insertion, or it fails and has none. -/
theorem apply_cases (table : TypeTable) (edit : Edit) :
    (∃ address name, edit.insertion? = some (address, name) ∧
      edit.apply table = (.ok (), table.insert address name)) ∨
    edit.insertion? = none ∧ ∃ fault, edit.apply table = (.error fault, table) := by
  cases edit with
  | insert name address => exact .inl ⟨address, name, rfl, rfl⟩
  | entry text =>
      rw [Edit.insertion?, Edit.apply, addEntry]
      cases hSplit : splitEntry? text with
      | none => exact .inr ⟨rfl, _, rfl⟩
      | some parts =>
          obtain ⟨name, address⟩ := parts
          cases hWord : parseWord address with
          | ok word => exact .inl ⟨word, name, by simp [hWord, Except.toOption], by simp [hWord]⟩
          | error cause => exact .inr ⟨by simp [hWord, Except.toOption], _, by simp [hWord]; rfl⟩

/-- What the edits that fail leave out is all that they do. -/
theorem afterAll_eq (table : TypeTable) (edits : List Edit) :
    table.afterAll edits = table.insertAll (edits.filterMap Edit.insertion?) := by
  induction edits generalizing table with
  | nil => rfl
  | cons edit rest ih =>
      change (table.after edit).afterAll rest = _
      rw [ih]
      rcases apply_cases table edit with ⟨address, name, hInsertion, hTable⟩ | ⟨hNone, fault, hFault⟩
      · rw [List.filterMap_cons_some hInsertion, insertAll_cons, after, hTable]
      · rw [List.filterMap_cons_none hNone, after, hFault]

theorem unambiguous_of_load {path : String} {contents : Except FileFault String}
    (h : load path contents = .ok start) : start.Unambiguous := by
  cases contents with
  | error fault => cases h
  | ok source =>
      rw [load, ofJson] at h
      split at h
      · cases h
      · rename_i members _
        cases hRead : empty.insertMembers (lastOfEachName members) with
        | error fault =>
            rw [hRead] at h
            cases h
        | ok table =>
            rw [hRead] at h
            cases h
            exact unambiguous_of_insertMembers hRead

/-- Entries that all have to succeed are edits none of which fails. -/
theorem addEntries_eq_ok_iff {entries : List String} :
    CommandLine.addEntries table entries = .ok next ↔
      (∀ entry ∈ entries, (Edit.entry entry).insertion? ≠ none) ∧
        next = table.afterAll (entries.map Edit.entry) := by
  induction entries generalizing table with
  | nil => simp [CommandLine.addEntries, afterAll, eq_comm]
  | cons entry rest ih =>
      have hAdds : table.addEntry entry = (Edit.entry entry).apply table := rfl
      rw [CommandLine.addEntries, hAdds, List.forall_mem_cons, List.map_cons]
      change _ ↔ _ ∧ next = (table.after (.entry entry)).afterAll (rest.map Edit.entry)
      rcases apply_cases table (.entry entry) with
        ⟨address, name, hInsertion, hTable⟩ | ⟨hNone, fault, hFault⟩
      · rw [after, hTable, hInsertion]
        simpa using ih
      · rw [hFault, hNone]
        exact iff_of_false (fun h => by cases h) (fun h => h.1.1 rfl)

/-- The names that the program starts with are those of the file behind the entries of the command line as
edits, if it can be loaded and none of them fails. -/
theorem readTypes_eq_ok_iff {readFile : String → Except FileFault String} {file : Option String}
    {entries : List String} :
    CommandLine.readTypes readFile file entries = .ok next ↔
      ∃ start, (match file with
        | some path => load path (readFile path) = .ok start
        | none => start = empty) ∧
      (∀ entry ∈ entries, (Edit.entry entry).insertion? ≠ none) ∧
        next = start.afterAll (entries.map Edit.entry) := by
  simp only [← addEntries_eq_ok_iff]
  cases file with
  | none => simp [CommandLine.readTypes, pure, Except.pure, bind, Except.bind]
  | some path =>
      rw [CommandLine.readTypes]
      cases hLoad : load path (readFile path) with
      | error fault => simp [hLoad, bind, Except.bind]
      | ok start => simp [hLoad, bind, Except.bind]

/-- Every table that edits lead to, from no names or from those of a file. Adding an entry succeeds exactly if
the entry is of the right form and its address is a word, and then it inserts the name at this word. If it
fails, the fault tells which of the two is missing, and the table stays as it was. At every point an
address has the name of the last insertion that succeeded there, or else the one from the start, and the
size is the number of the addresses with a name. -/
theorem tables_keep_last_insertions
    (hStart : start = empty ∨ ∃ path contents, load path contents = .ok start) :
    (∀ (table : TypeTable) (entry : String),
      (∀ next, table.addEntry entry = (.ok (), next) ↔ ∃ name address word,
        IsEntry entry name address ∧ parseWord address = .ok word ∧ next = table.insert word name) ∧
      ∀ fault next, table.addEntry entry = (.error fault, next) ↔
        ((∀ name address, ¬ IsEntry entry name address) ∧ fault = .entry entry ∨
          ∃ name address cause, IsEntry entry name address ∧ parseWord address = .error cause ∧
            fault = .address cause) ∧ next = table) ∧
    (∀ (table : TypeTable) (edit : Edit),
      (∃ address name, edit.insertion? = some (address, name) ∧
        edit.apply table = (.ok (), table.insert address name)) ∨
      edit.insertion? = none ∧ ∃ fault, edit.apply table = (.error fault, table)) ∧
    ∀ edits,
      (∀ address, (start.afterAll edits).nameOf address =
        ((edits.filterMap Edit.insertion?).reverse.lookup address).or (start.nameOf address)) ∧
      Set.encard {address | (start.afterAll edits).nameOf address ≠ none} =
        (start.afterAll edits).size := by
  have hUnambiguous : start.Unambiguous := by
    rcases hStart with rfl | ⟨path, contents, hLoad⟩
    · exact empty_unambiguous
    · exact unambiguous_of_load hLoad
  refine ⟨fun table entry => ⟨fun next => addEntry_eq_ok_iff, fun fault next => addEntry_eq_error_iff⟩,
    apply_cases, fun edits => ?_⟩
  rw [afterAll_eq]
  exact ⟨nameOf_insertAll start _, (hUnambiguous.insertAll _).encard⟩

/-- The first edit replaces the name from the file, in another spelling of its address. The second has no
name, and the address of the fourth has an equals sign in it. -/
theorem tables_keep_last_insertions_mixed :
    let start : TypeTable := ⟨[(16, "type_Bool")]⟩
    let edits : List Edit :=
      [.entry " builtin/Bool =0x1_0", .entry "=16", .insert "type_Nil" 17, .entry "type_Int=17="]
    load "types" (.ok "\x7b\"type_Bool\": \"0x10\"\x7d") = .ok start ∧
    (start.afterAll edits).nameOf 16 = some "builtin/Bool" ∧
    (start.afterAll edits).nameOf 17 = some "type_Nil" ∧
    Set.encard {address | (start.afterAll edits).nameOf address ≠ none} = 2 := by
  intro start edits
  have hLoad : load "types" (.ok "\x7b\"type_Bool\": \"0x10\"\x7d") = .ok start := by decide +kernel
  obtain ⟨_, _, hEdits⟩ := tables_keep_last_insertions (.inr ⟨_, _, hLoad⟩)
  obtain ⟨hNames, hSize⟩ := hEdits edits
  have hInsertions : edits.filterMap Edit.insertion? = [(16, "builtin/Bool"), (17, "type_Nil")] := by
    decide +kernel
  have hTwo : (start.afterAll edits).size = 2 := by decide +kernel
  refine ⟨hLoad, ?_, ?_, ?_⟩
  · rw [hNames, hInsertions]
    rfl
  · rw [hNames, hInsertions]
    rfl
  · rw [hSize, hTwo]
    rfl

end HeapInspector.TypeTable
