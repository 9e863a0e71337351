/-!
Tables of type names. A table has at most one name for an address: a later name replaces an earlier
one.
-/

namespace HeapInspector

structure TypeTable where
  names : List (Nat × String)
  deriving DecidableEq, Repr

namespace TypeTable

def empty : TypeTable := ⟨[]⟩

def insert (table : TypeTable) (address : Nat) (name : String) : TypeTable :=
  ⟨(address, name) :: table.names.filter (·.1 ≠ address)⟩

def nameOf (table : TypeTable) (address : Nat) : Option String := table.names.lookup address

/-- The number of addresses that have a name. -/
def size (table : TypeTable) : Nat := table.names.length

def isEmpty (table : TypeTable) : Bool := table.names.isEmpty

@[simp] theorem nameOf_empty (address : Nat) : empty.nameOf address = none := rfl

@[simp] theorem nameOf_insert_self (table : TypeTable) (address : Nat) (name : String) :
    (table.insert address name).nameOf address = some name := List.lookup_cons_self

theorem lookup_filter_of_ne {address other : Nat} (names : List (Nat × String))
    (h : other ≠ address) : (names.filter (·.1 ≠ address)).lookup other = names.lookup other := by
  induction names with
  | nil => rfl
  | cons entry rest ih =>
      by_cases hKey : entry.1 = address
      · have hOther : (other == entry.1) = false := beq_eq_false_iff_ne.mpr (hKey ▸ h)
        rw [List.filter_cons_of_neg (by simpa using hKey), ih, List.lookup_cons, hOther]
      · rw [List.filter_cons_of_pos (by simpa using hKey), List.lookup_cons, List.lookup_cons, ih]

theorem nameOf_insert_of_ne (table : TypeTable) {address other : Nat} (name : String)
    (h : other ≠ address) : (table.insert address name).nameOf other = table.nameOf other := by
  have hFirst : (other == address) = false := beq_eq_false_iff_ne.mpr h
  rw [nameOf, insert, List.lookup_cons, hFirst]
  exact lookup_filter_of_ne table.names h

theorem mem_of_nameOf {table : TypeTable} {address : Nat} {name : String}
    (h : table.nameOf address = some name) : (address, name) ∈ table.names := by
  obtain ⟨before, after, hNames, _⟩ := List.lookup_eq_some_iff.mp h
  simp [hNames]

end TypeTable

end HeapInspector
