/-!
Sets of characters as ranges of code points, which is how the Unicode character database lists the
characters of a property.
-/

namespace HeapInspector

/-- A set of characters: inclusive ranges, in ascending order. -/
abbrev CodeRanges := List (Nat × Nat)

def CodeRanges.holds (ranges : CodeRanges) (c : Char) : Bool :=
  ranges.any fun (first, last) => first ≤ c.toNat && c.toNat ≤ last

end HeapInspector
