import HeapInspector.Text.Lowercase

/-!
Keys of type names. Names are spelled the way the globals of a runtime spell them, the way its tools
print them, or plainly, and all three spellings have one key.
-/

namespace HeapInspector

structure TypeKey where
  text : String
  deriving DecidableEq, Repr

namespace TypeKey

/-- What may stand in front of a type name. -/
def qualifiers : List String := ["builtin/", "type_"]

/-- The text behind a leading part, if it starts with that part. -/
def dropLeading? (leading text : List Char) : Option (List Char) :=
  if leading.isPrefixOf text then some (text.drop leading.length) else none

/-- The name without the first qualifier that it starts with. At most one is taken away. -/
def unqualified (name : List Char) : List Char :=
  (qualifiers.findSome? fun qualifier => dropLeading? qualifier.toList name).getD name

/-- The key of a name: the unqualified name in lower case. Qualifiers are recognised before the
lower-casing, and so only as they are spelled here. -/
def ofName (name : String) : TypeKey :=
  ⟨String.ofList (Lowercase.lower (unqualified name.toList))⟩

end TypeKey

end HeapInspector
