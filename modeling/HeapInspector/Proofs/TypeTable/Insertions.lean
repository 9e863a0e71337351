import HeapInspector.TypeTable
import Mathlib.Data.Set.Card

/-! Names inserted one after another. An address keeps the name that it got last, and a table counts the
addresses that have a name. -/
namespace HeapInspector.TypeTable

variable {table : TypeTable} {address : Nat}

/-- The table behind insertions of names at addresses, made in order. -/
def insertAll (table : TypeTable) (insertions : List (Nat × String)) : TypeTable :=
  insertions.foldl (fun table (address, name) => table.insert address name) table

@[simp] theorem insertAll_nil (table : TypeTable) : table.insertAll [] = table := rfl

@[simp] theorem insertAll_cons (table : TypeTable) (address : Nat) (name : String)
    (rest : List (Nat × String)) :
    table.insertAll ((address, name) :: rest) = (table.insert address name).insertAll rest := rfl

theorem insertAll_append (table : TypeTable) (first second : List (Nat × String)) :
    table.insertAll (first ++ second) = (table.insertAll first).insertAll second :=
  List.foldl_append

/-- The last insertion at an address decides its name, and without one the table from before does. -/
theorem nameOf_insertAll (table : TypeTable) (insertions : List (Nat × String)) (address : Nat) :
    (table.insertAll insertions).nameOf address =
      (insertions.reverse.lookup address).or (table.nameOf address) := by
  induction insertions using List.reverseRecOn with
  | nil => rfl
  | append_singleton earlier last ih =>
      obtain ⟨target, name⟩ := last
      rw [insertAll_append, insertAll_cons, insertAll_nil, List.reverse_append, List.reverse_singleton,
        List.singleton_append, List.lookup_cons]
      by_cases hSame : address = target
      · subst hSame
        rw [nameOf_insert_self, beq_self_eq_true]
        rfl
      · rw [nameOf_insert_of_ne _ name hSame, ih, beq_eq_false_iff_ne.mpr hSame]

/-- No address has two names. -/
def Unambiguous (table : TypeTable) : Prop := (table.names.map Prod.fst).Nodup

theorem empty_unambiguous : empty.Unambiguous := List.nodup_nil

theorem Unambiguous.insert (h : table.Unambiguous) (address : Nat) (name : String) :
    (table.insert address name).Unambiguous := by
  have hOthers : ((table.names.filter (·.1 ≠ address)).map Prod.fst).Nodup :=
    List.Nodup.sublist (List.filter_sublist.map Prod.fst) h
  refine List.nodup_cons.mpr ⟨?_, hOthers⟩
  simp

theorem Unambiguous.insertAll (h : table.Unambiguous) (insertions : List (Nat × String)) :
    (table.insertAll insertions).Unambiguous := by
  induction insertions generalizing table with
  | nil => exact h
  | cons insertion rest ih => exact ih (h.insert insertion.1 insertion.2)

theorem nameOf_eq_none_iff : table.nameOf address = none ↔ address ∉ table.names.map Prod.fst := by
  rw [nameOf, List.lookup_eq_none_iff, List.mem_map]
  constructor
  · rintro h ⟨entry, hMem, rfl⟩
    simpa using h entry hMem
  · intro h entry hMem
    rw [bne_iff_ne]
    rintro rfl
    exact h ⟨entry, hMem, rfl⟩

/-- The addresses with a name are as many as the size tells. -/
theorem Unambiguous.encard (h : table.Unambiguous) :
    Set.encard {address | table.nameOf address ≠ none} = table.size := by
  have hSet : {address | table.nameOf address ≠ none} = ((table.names.map Prod.fst).toFinset : Set Nat) := by
    ext address
    rw [Set.mem_ofPred_eq, Ne, nameOf_eq_none_iff, not_not, List.coe_toFinset, Set.mem_ofPred_eq]
  rw [hSet, Set.encard_coe_eq_coe_finsetCard, List.toFinset_card_of_nodup h, List.length_map, size]

end HeapInspector.TypeTable
