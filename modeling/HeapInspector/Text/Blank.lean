/-!
White space as the Unicode character database defines it, and the removal of it at the ends of a
text.
-/

namespace HeapInspector.Blank

/-- The inclusive ranges of the characters with the property `White_Space`. -/
def ranges : List (Nat × Nat) :=
  [(0x09, 0x0D), (0x20, 0x20), (0x85, 0x85), (0xA0, 0xA0), (0x1680, 0x1680), (0x2000, 0x200A),
    (0x2028, 0x2029), (0x202F, 0x202F), (0x205F, 0x205F), (0x3000, 0x3000)]

def isBlank (c : Char) : Bool := ranges.any fun (first, last) => first ≤ c.toNat && c.toNat ≤ last

/-- The text without the white space in front of it. -/
def trimStart (text : List Char) : List Char := text.dropWhile isBlank

/-- The text without the white space behind it. -/
def trimEnd (text : List Char) : List Char := (text.reverse.dropWhile isBlank).reverse

/-- The text without white space at its two ends. -/
def trim (text : List Char) : List Char := trimEnd (trimStart text)

/-- Every ASCII character that the standard library takes for white space is white space here. -/
theorem isBlank_of_isWhitespace (c : Char) (h : c.isWhitespace) : isBlank c := by
  simp only [Char.isWhitespace, Bool.or_eq_true, decide_eq_true_eq] at h
  rcases h with ((h | h) | h) | h <;> subst h <;> decide

end HeapInspector.Blank
