import HeapInspector.Text.Cluster.Table

/-!
The characters of a text as a reader counts them: a letter with its accents, a syllable, a flag or a
composed pictograph is one cluster of several code points. The division follows the rules for
extended grapheme clusters of the Unicode standard. Every rule looks at the next character and back
into the cluster that ends in front of it, never further.
-/

namespace HeapInspector.Cluster

/-- The part that a character plays in a cluster. -/
inductive Part where
  | carriageReturn
  | lineFeed
  | control
  /-- A mark that extends the character in front of it. -/
  | extender
  /-- An extending mark that links two consonants into a conjunct. -/
  | linker
  /-- The extending mark that keeps conjuncts apart. -/
  | nonJoiner
  /-- The mark that joins pictographs, and is also an extending mark. -/
  | joiner
  | spacingMark
  /-- A sign that belongs to the character behind it. -/
  | prepended
  /-- Half of a flag. -/
  | regional
  | pictograph
  /-- A consonant that can be part of a conjunct. -/
  | consonant
  | leading
  | vowel
  | trailing
  /-- A syllable that ends in a vowel. -/
  | openSyllable
  /-- A syllable that ends in a consonant. -/
  | closedSyllable
  | other
  deriving DecidableEq, Repr

/-- The first of the syllables that are characters of their own. -/
def firstSyllable : Nat := 0xAC00

def lastSyllable : Nat := 0xD7A3

/-- Of so many syllables in a row that differ in their end only, the first is open. -/
def syllableEnds : Nat := 28

/-- The part of a character. No character is in two of the tables, so their order does not
matter. -/
def partOf (c : Char) : Part :=
  if c = '\r' then .carriageReturn
  else if c = '\n' then .lineFeed
  else if c.toNat = 0x200C then .nonJoiner
  else if c.toNat = 0x200D then .joiner
  else if firstSyllable ≤ c.toNat ∧ c.toNat ≤ lastSyllable then
    if (c.toNat - firstSyllable) % syllableEnds = 0 then .openSyllable else .closedSyllable
  else if controlRanges.holds c then .control
  else if extenderRanges.holds c then .extender
  else if linkerRanges.holds c then .linker
  else if spacingMarkRanges.holds c then .spacingMark
  else if prependedRanges.holds c then .prepended
  else if regionalRanges.holds c then .regional
  else if pictographRanges.holds c then .pictograph
  else if consonantRanges.holds c then .consonant
  else if leadingRanges.holds c then .leading
  else if vowelRanges.holds c then .vowel
  else if trailingRanges.holds c then .trailing
  else .other

/-- Whether a part stands alone, except that a line feed goes with the carriage return in front of
it. -/
def Part.standsAlone : Part → Bool
  | carriageReturn | lineFeed | control => true
  | _ => false

def Part.isExtending : Part → Bool
  | extender | linker | nonJoiner => true
  | _ => false

/-- Whether a part may stand between two consonants of a conjunct. -/
def Part.isConjunctMark : Part → Bool
  | extender | linker | joiner => true
  | _ => false

/-- Whether two parts stand side by side within a syllable. -/
def joinsSyllable : Part → Part → Bool
  | .leading, .leading | .leading, .vowel | .leading, .openSyllable | .leading, .closedSyllable =>
      true
  | .vowel, .vowel | .openSyllable, .vowel => true
  | .vowel, .trailing | .openSyllable, .trailing | .closedSyllable, .trailing => true
  | .trailing, .trailing => true
  | _, _ => false

/-- Whether a consonant behind these parts, the last one first, is linked to the consonant in front
of them. -/
def linksConsonant (before : List Part) : Bool :=
  (before.takeWhile (·.isConjunctMark)).contains .linker &&
    (before.dropWhile (·.isConjunctMark)).head? = some .consonant

/-- Whether a pictograph behind these parts, the last one first, is joined to the pictograph in
front of them. -/
def joinsPictograph : List Part → Bool
  | .joiner :: before => (before.dropWhile (·.isExtending)).head? = some .pictograph
  | _ => false

/-- Whether the last of these parts, which come first, is half of a flag that lacks the other. -/
def awaitsRegional (before : List Part) : Bool :=
  (before.takeWhile (· = .regional)).length % 2 = 1

/-- Whether a part belongs to the cluster with these parts, the last one first. -/
def continues : List Part → Part → Bool
  | [], _ => false
  | last :: before, next =>
      if last = .carriageReturn && next = .lineFeed then true
      else if last.standsAlone || next.standsAlone then false
      else if next.isExtending || next = .joiner || next = .spacingMark then true
      else if last = .prepended then true
      else
        match next with
        | .consonant => linksConsonant (last :: before)
        | .pictograph => joinsPictograph (last :: before)
        | .regional => awaitsRegional (last :: before)
        | _ => joinsSyllable last next

/-- Divides what follows a cluster that has begun. The cluster and its parts are held in reverse. -/
def splitFrom (cluster : List Char) (parts : List Part) : List Char → List (List Char)
  | [] => [cluster.reverse]
  | c :: rest =>
      if continues parts (partOf c) then splitFrom (c :: cluster) (partOf c :: parts) rest
      else cluster.reverse :: splitFrom [c] [partOf c] rest

/-- The clusters of a text, in order. -/
def split : List Char → List (List Char)
  | [] => []
  | c :: rest => splitFrom [c] [partOf c] rest

theorem flatten_splitFrom (cluster : List Char) (parts : List Part) (text : List Char) :
    (splitFrom cluster parts text).flatten = cluster.reverse ++ text := by
  induction text generalizing cluster parts with
  | nil => simp [splitFrom]
  | cons c rest ih =>
    by_cases h : continues parts (partOf c) = true
    · simp [splitFrom, h, ih]
    · simp [splitFrom, h, ih]

/-- Nothing of a text is lost or moved by its division. -/
@[simp] theorem flatten_split (text : List Char) : (split text).flatten = text := by
  cases text with
  | nil => rfl
  | cons c rest => simp [split, flatten_splitFrom]

end HeapInspector.Cluster
