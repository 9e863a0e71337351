import HeapInspector.Text.Lowercase.Table

/-!
Lower-casing by the Unicode character database, without regard to a language. Two characters are
special: the capital I with a dot above becomes two characters, and the capital sigma has a form of
its own at the end of a word.
-/

namespace HeapInspector.Lowercase

def isIgnorable (c : Char) : Bool := ignorableRanges.holds c

/-- Whether the first character that is not ignorable is cased. -/
def meetsCased (text : List Char) : Bool :=
  match text.dropWhile isIgnorable with
  | [] => false
  | c :: _ => casedRanges.holds c

/-- A run holds the character if it reaches it from its first one in whole steps. -/
def CaseRun.holds (run : CaseRun) (c : Char) : Bool :=
  run.first ≤ c.toNat && c.toNat ≤ run.last && (c.toNat - run.first) % run.step = 0

/-- The lower-case form of one character on its own. -/
def lowerChar (c : Char) : List Char :=
  if c.toNat < 0x80 then
    [if 'A' ≤ c ∧ c ≤ 'Z' then Char.ofNat (c.toNat + 32) else c]
  else if c.toNat = 0x130 then ['i', Char.ofNat 0x307]
  else
    match caseRuns.find? (·.holds c) with
    | some run => [Char.ofNat (c.toNat + run.shift).toNat]
    | none => [c]

def capitalSigma : Char := Char.ofNat 0x3A3

/-- A capital sigma ends a word if a cased character comes before it and none after it, ignorable
characters left aside. -/
def lowerSigma (before after : List Char) : Char :=
  Char.ofNat (if meetsCased before && !meetsCased after then 0x3C2 else 0x3C3)

/-- Lower-cases what follows the characters in `before`, which are held in reverse. -/
def lowerFrom (before : List Char) : List Char → List Char
  | [] => []
  | c :: rest =>
      (if c = capitalSigma then [lowerSigma before rest] else lowerChar c) ++
        lowerFrom (c :: before) rest

/-- The text in lower case. -/
def lower (text : List Char) : List Char := lowerFrom [] text

end HeapInspector.Lowercase
