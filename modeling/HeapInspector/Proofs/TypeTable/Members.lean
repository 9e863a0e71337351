import HeapInspector.Proofs.TypeTable.Insertions
import HeapInspector.TypeTable.Entry

/-! The members of a table that is read, in any order. A table in JSON maps names to addresses, and what
is kept of it maps addresses to names. Whether the members can be read and which addresses get a name is
the same in every order. Which name an address gets is not: it may be that of any member that denotes it,
and so the order shows exactly where two members denote one address. -/
namespace HeapInspector.TypeTable

variable {table next : TypeTable} {members order : List (String × AddressForm)}
  {member : String × AddressForm} {address : Nat} {name : String}

/-- The insertion that a member stands for, if its address is a word. -/
def memberInsertion? (member : String × AddressForm) : Option (Nat × String) :=
  member.2.value.toOption.map fun address => (address, member.1)

theorem memberInsertion?_eq_some_iff :
    memberInsertion? member = some (address, name) ↔ member.2.value = .ok address ∧ member.1 = name := by
  unfold memberInsertion?
  cases member.2.value with
  | ok word => simp [Except.toOption]
  | error fault => simp [Except.toOption]

/-- Every address of the members is a word. -/
def AreReadable (members : List (String × AddressForm)) : Prop :=
  ∀ member ∈ members, ∃ word, member.2.value = .ok word

theorem mem_of_mem_lastOfEachName (h : member ∈ lastOfEachName members) : member ∈ members := by
  induction members with
  | nil => exact h
  | cons first rest ih =>
      rw [lastOfEachName] at h
      split at h
      · exact List.mem_cons_of_mem _ (ih h)
      · exact List.mem_cons.mpr ((List.mem_cons.mp h).imp_right ih)

/-- What is kept of the members of a text has different names. -/
theorem nodup_lastOfEachName (members : List (String × AddressForm)) :
    ((lastOfEachName members).map Prod.fst).Nodup := by
  induction members with
  | nil => exact List.nodup_nil
  | cons first rest ih =>
      rw [lastOfEachName]
      split
      · exact ih
      · rename_i hNew
        refine List.nodup_cons.mpr ⟨?_, ih⟩
        intro hMem
        obtain ⟨member, hMember, hName⟩ := List.mem_map.mp hMem
        exact hNew (List.any_eq_true.mpr ⟨member, mem_of_mem_lastOfEachName hMember, by simpa using hName⟩)

/-- Members are inserted one after another, or not at all. -/
theorem insertMembers_eq_ok_iff : table.insertMembers members = .ok next ↔
    AreReadable members ∧ next = table.insertAll (members.filterMap memberInsertion?) := by
  induction members generalizing table with
  | nil => simp [insertMembers, AreReadable, eq_comm]
  | cons member rest ih =>
      obtain ⟨name, form⟩ := member
      rw [insertMembers]
      cases hValue : form.value with
      | error fault =>
          refine iff_of_false (fun h => by cases h) ?_
          rintro ⟨hReadable, _⟩
          obtain ⟨word, hWord⟩ := hReadable _ List.mem_cons_self
          rw [hValue] at hWord
          cases hWord
      | ok word =>
          have hFirst : memberInsertion? (name, form) = some (word, name) :=
            memberInsertion?_eq_some_iff.mpr ⟨hValue, rfl⟩
          have hReadable : AreReadable ((name, form) :: rest) ↔ AreReadable rest := by
            simp [AreReadable, hValue]
          rw [List.filterMap_cons_some hFirst, insertAll_cons, hReadable]
          exact ih

theorem exists_insertMembers_iff :
    (∃ next, table.insertMembers members = .ok next) ↔ AreReadable members := by
  constructor
  · rintro ⟨next, hNext⟩
    exact (insertMembers_eq_ok_iff.mp hNext).1
  · exact fun hReadable => ⟨_, insertMembers_eq_ok_iff.mpr ⟨hReadable, rfl⟩⟩

theorem unambiguous_of_insertMembers (h : empty.insertMembers members = .ok table) :
    table.Unambiguous := by
  rw [(insertMembers_eq_ok_iff.mp h).2]
  exact empty_unambiguous.insertAll _

theorem nameOf_of_insertMembers (h : empty.insertMembers members = .ok table) (address : Nat) :
    table.nameOf address = (members.filterMap memberInsertion?).reverse.lookup address := by
  rw [(insertMembers_eq_ok_iff.mp h).2, nameOf_insertAll, nameOf_empty, Option.or_none]

theorem exists_member_of_nameOf (h : empty.insertMembers members = .ok table)
    (hName : table.nameOf address = some name) :
    ∃ form, (name, form) ∈ members ∧ form.value = .ok address := by
  rw [nameOf_of_insertMembers h] at hName
  obtain ⟨before, after, hSplit, _⟩ := List.lookup_eq_some_iff.mp hName
  have hMem : (address, name) ∈ members.filterMap memberInsertion? := by
    rw [← List.mem_reverse, hSplit]
    simp
  obtain ⟨⟨found, form⟩, hMember, hInsertion⟩ := List.mem_filterMap.mp hMem
  obtain ⟨hValue, rfl⟩ := memberInsertion?_eq_some_iff.mp hInsertion
  exact ⟨form, hMember, hValue⟩

theorem nameOf_ne_none_iff_of_insertMembers (h : empty.insertMembers members = .ok table) :
    table.nameOf address ≠ none ↔ ∃ member ∈ members, member.2.value = .ok address := by
  constructor
  · intro hNamed
    obtain ⟨name, hName⟩ := Option.ne_none_iff_exists'.mp hNamed
    obtain ⟨form, hMember, hValue⟩ := exists_member_of_nameOf h hName
    exact ⟨_, hMember, hValue⟩
  · rintro ⟨member, hMember, hValue⟩
    have hMem : (address, member.1) ∈ members.filterMap memberInsertion? :=
      List.mem_filterMap.mpr ⟨member, hMember, memberInsertion?_eq_some_iff.mpr ⟨hValue, rfl⟩⟩
    rw [nameOf_of_insertMembers h, Ne, List.lookup_eq_none_iff]
    intro hNone
    simpa using hNone _ (List.mem_reverse.mpr hMem)

/-- The last member that denotes an address gives it its name. -/
theorem nameOf_of_insertMembers_last {rest : List (String × AddressForm)} {form : AddressForm}
    (h : empty.insertMembers (rest ++ [(name, form)]) = .ok table) (hValue : form.value = .ok address) :
    table.nameOf address = some name := by
  have hLast : memberInsertion? (name, form) = some (address, name) :=
    memberInsertion?_eq_some_iff.mpr ⟨hValue, rfl⟩
  rw [nameOf_of_insertMembers h, List.filterMap_append, List.filterMap_cons_some hLast, List.filterMap_nil,
    List.reverse_append, List.reverse_singleton, List.singleton_append, List.lookup_cons_self]

/-- The members make the table in one of their orders. -/
def Yield (members : List (String × AddressForm)) (table : TypeTable) : Prop :=
  ∃ order : List (String × AddressForm), order.Perm members ∧ empty.insertMembers order = .ok table

theorem areReadable_perm (h : order.Perm members) : AreReadable order ↔ AreReadable members :=
  forall_congr' fun _ => imp_congr_left h.mem_iff

theorem Yield.exists_member (h : Yield members table) (hName : table.nameOf address = some name) :
    ∃ form, (name, form) ∈ members ∧ form.value = .ok address := by
  obtain ⟨order, hOrder, hTable⟩ := h
  obtain ⟨form, hMember, hValue⟩ := exists_member_of_nameOf hTable hName
  exact ⟨form, hOrder.mem_iff.mp hMember, hValue⟩

theorem Yield.nameOf_ne_none_iff (h : Yield members table) :
    table.nameOf address ≠ none ↔ ∃ member ∈ members, member.2.value = .ok address := by
  obtain ⟨order, hOrder, hTable⟩ := h
  rw [nameOf_ne_none_iff_of_insertMembers hTable]
  exact exists_congr fun _ => and_congr_left' hOrder.mem_iff

/-- The size counts the addresses that are denoted. -/
theorem Yield.encard (h : Yield members table) :
    Set.encard {address | ∃ member ∈ members, member.2.value = .ok address} = table.size := by
  obtain ⟨order, _, hTable⟩ := id h
  rw [← (unambiguous_of_insertMembers hTable).encard]
  congr 1
  ext address
  exact h.nameOf_ne_none_iff.symm

/-- Any member can come last, and then its name wins. -/
theorem exists_yield_of_mem (hReadable : AreReadable members) {form : AddressForm}
    (hMember : (name, form) ∈ members) (hValue : form.value = .ok address) :
    ∃ table, Yield members table ∧ table.nameOf address = some name := by
  obtain ⟨before, after, rfl⟩ := List.append_of_mem hMember
  have hOrder : (before ++ after ++ [(name, form)]).Perm (before ++ (name, form) :: after) := by
    rw [List.append_assoc]
    exact (List.perm_append_singleton _ _).append_left before
  obtain ⟨table, hTable⟩ := exists_insertMembers_iff.mpr ((areReadable_perm hOrder).mpr hReadable)
  exact ⟨table, ⟨_, hOrder, hTable⟩, nameOf_of_insertMembers_last hTable hValue⟩

/-- At most one of the members denotes the address. -/
def IsDenotedOnce (members : List (String × AddressForm)) (address : Nat) : Prop :=
  ∀ first ∈ members, ∀ second ∈ members, first.2.value = .ok address → second.2.value = .ok address →
    first = second

theorem nameOf_eq_of_isDenotedOnce {other : TypeTable} (hOnce : IsDenotedOnce members address)
    (hTable : Yield members table) (hOther : Yield members other) :
    table.nameOf address = other.nameOf address := by
  cases hName : table.nameOf address with
  | none =>
      have hNone : ¬ ∃ member ∈ members, member.2.value = .ok address :=
        fun hMember => hTable.nameOf_ne_none_iff.mpr hMember hName
      by_contra hDifferent
      exact hNone (hOther.nameOf_ne_none_iff.mp (Ne.symm hDifferent))
  | some name =>
      obtain ⟨form, hMember, hValue⟩ := hTable.exists_member hName
      have hNamed := hOther.nameOf_ne_none_iff.mpr ⟨_, hMember, hValue⟩
      obtain ⟨otherName, hOtherName⟩ := Option.ne_none_iff_exists'.mp hNamed
      obtain ⟨otherForm, hOtherMember, hOtherValue⟩ := hOther.exists_member hOtherName
      have hSame := hOnce _ hMember _ hOtherMember hValue hOtherValue
      rw [hOtherName]
      exact congrArg (fun member => some member.1) hSame

theorem isDenotedOnce_of_nameOf_eq (hNames : (members.map Prod.fst).Nodup)
    (hReadable : AreReadable members) (hSame : ∀ table other, Yield members table →
      Yield members other → table.nameOf address = other.nameOf address) :
    IsDenotedOnce members address := by
  intro first hFirst second hSecond hFirstValue hSecondValue
  obtain ⟨table, hTable, hTableName⟩ := exists_yield_of_mem hReadable hFirst hFirstValue
  obtain ⟨other, hOther, hOtherName⟩ := exists_yield_of_mem hReadable hSecond hSecondValue
  have hName := hSame table other hTable hOther
  rw [hTableName, hOtherName] at hName
  exact List.inj_on_of_nodup_map hNames hFirst hSecond (Option.some.inj hName)

/-- For members with different names. In every order all of them are read or none, and tables that are
read have the same size and names at the same addresses. The names that an address can get are those of
the members that denote it. So it gets the same one in every order exactly if there is one at most. -/
theorem orders_decide_among_denoting_names (hNames : (members.map Prod.fst).Nodup) :
    (∀ order : List (String × AddressForm), order.Perm members →
      ((∃ table, empty.insertMembers order = .ok table) ↔
        ∃ table, empty.insertMembers members = .ok table)) ∧
    (∀ table other, Yield members table → Yield members other → table.size = other.size ∧
      ∀ address, table.nameOf address = none ↔ other.nameOf address = none) ∧
    ((∃ table, empty.insertMembers members = .ok table) → ∀ address,
      (∀ name, (∃ table, Yield members table ∧ table.nameOf address = some name) ↔
        ∃ form, (name, form) ∈ members ∧ form.value = .ok address) ∧
      ((∀ table other, Yield members table → Yield members other →
        table.nameOf address = other.nameOf address) ↔ IsDenotedOnce members address)) := by
  refine ⟨?_, ?_, ?_⟩
  · intro order hOrder
    rw [exists_insertMembers_iff, exists_insertMembers_iff, areReadable_perm hOrder]
  · intro table other hTable hOther
    have hSize : (table.size : ENat) = other.size := by rw [← hTable.encard, ← hOther.encard]
    refine ⟨Nat.cast_inj.mp hSize, fun address => ?_⟩
    exact not_iff_not.mp (hTable.nameOf_ne_none_iff.trans hOther.nameOf_ne_none_iff.symm)
  · intro hTable address
    have hReadable := exists_insertMembers_iff.mp hTable
    refine ⟨fun name => ⟨?_, ?_⟩, ?_, ?_⟩
    · rintro ⟨table, hYield, hName⟩
      exact hYield.exists_member hName
    · rintro ⟨form, hMember, hValue⟩
      exact exists_yield_of_mem hReadable hMember hValue
    · exact isDenotedOnce_of_nameOf_eq hNames hReadable
    · exact fun hOnce table other => nameOf_eq_of_isDenotedOnce hOnce

/-- Of the members that are kept two denote one address, in different spellings. Their names are those that
it can get, and it does get both, while the name of the other address is sure. -/
theorem orders_decide_among_denoting_names_spelled :
    let members : List (String × AddressForm) := lastOfEachName
      [("type_Nil", .text "none"), ("type_Bool", .text "0x20_00"), ("type_Nil", .number 1),
        ("builtin/Bool", .number 8192)]
    (members.map Prod.fst).Nodup ∧
    (∃ table, empty.insertMembers members = .ok table) ∧
    (∃ table, Yield members table ∧ table.nameOf 8192 = some "type_Bool") ∧
    (∃ table, Yield members table ∧ table.nameOf 8192 = some "builtin/Bool") ∧
    ∀ table other, Yield members table → Yield members other → table.nameOf 1 = other.nameOf 1 := by
  intro members
  have hNames : (members.map Prod.fst).Nodup := nodup_lastOfEachName _
  have hReads : ∃ table, empty.insertMembers members = .ok table := ⟨_, rfl⟩
  have hFirst : ("type_Bool", .text "0x20_00") ∈ members := by decide
  have hSecond : ("builtin/Bool", .number 8192) ∈ members := by decide
  have hValue : (AddressForm.text "0x20_00").value = .ok 8192 := by decide +kernel
  have hOnly : ∀ member ∈ members, member.2.value = .ok 1 → member = ("type_Nil", .number 1) := by
    decide +kernel
  obtain ⟨_, _, hDecide⟩ := orders_decide_among_denoting_names hNames
  have hWins := (hDecide hReads 8192).1
  refine ⟨hNames, hReads, (hWins _).mpr ⟨_, hFirst, hValue⟩, (hWins _).mpr ⟨_, hSecond, rfl⟩, ?_⟩
  apply (hDecide hReads 1).2.mpr
  intro first hMember second hOther hFirstValue hSecondValue
  rw [hOnly first hMember hFirstValue, hOnly second hOther hSecondValue]

/-- Two members with different names, in both orders. The tables differ in the name of one address. -/
theorem order_of_members_shows :
    let first := ("type_Bool", AddressForm.text "0x20_00")
    let second := ("builtin/Bool", AddressForm.number 8192)
    ([first, second].map Prod.fst).Nodup ∧ [first, second].Perm [second, first] ∧
    ∃ table other, empty.insertMembers [first, second] = .ok table ∧
      empty.insertMembers [second, first] = .ok other ∧
      table.nameOf 8192 = some "builtin/Bool" ∧ other.nameOf 8192 = some "type_Bool" := by
  refine ⟨by decide, .swap _ _ _, _, _, rfl, rfl, ?_, ?_⟩
  · decide +kernel
  · decide +kernel

end HeapInspector.TypeTable
