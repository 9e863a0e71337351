import HeapInspector.Text.Numeral

/-!
Shortest decimals: of the decimals that round to a given value, the one with the fewest digits, and
of those the nearest. The search compares natural numbers only, so it is exact.
-/

namespace HeapInspector.Decimal

/-- A positive value with the interval of the numbers that round to it, as four numerators over one
denominator. The ends of the interval belong to it if it is closed. -/
structure Interval where
  value : Nat
  low : Nat
  high : Nat
  denominator : Nat
  closed : Bool
  deriving DecidableEq, Repr

namespace Interval

/-- The interval in units of the given power of ten. -/
def inUnits (i : Interval) (exponent : Int) : Interval :=
  let up := Nat.pow 10 (-exponent).toNat
  { i with
    value := i.value * up
    low := i.low * up
    high := i.high * up
    denominator := i.denominator * Nat.pow 10 exponent.toNat }

def contains (i : Interval) (n : Nat) : Bool :=
  let n := n * i.denominator
  if i.closed then i.low ≤ n && n ≤ i.high else i.low < n && n < i.high

/-- The nearest whole number in the interval. If a whole number lies in the interval at all, so does
one of the two around the value. Of two that are equally near, the greater one is taken. -/
def nearest? (i : Interval) : Option Nat :=
  let below := i.value / i.denominator
  let above := below + 1
  match i.contains below, i.contains above with
  | true, true =>
      some (if 2 * i.value < (below + above) * i.denominator then below else above)
  | true, false => some below
  | false, true => some above
  | false, false => none

/-- The least exponent `e` such that the value is below `10 ^ e`. It is read off the number of digits
of the value in units so small that it is not less than one. -/
def magnitude (i : Interval) : Int :=
  let units := i.inUnits (-400)
  ((Nat.toDigits 10 (units.value / units.denominator)).length : Int) - 400

end Interval

/-- The number `0.d₁d₂… × 10 ^ exponent`. -/
structure Digits where
  digits : List Char
  exponent : Int
  deriving DecidableEq, Repr

/-- Digits without the zeros at their end. -/
def trimZeros (digits : List Char) : List Char := (digits.reverse.dropWhile (· = '0')).reverse

/-- Tries grids of one digit, two digits and so on, and takes the first that has a hit. A value that
lies on the grid is a hit itself, and no finite number of 64 bits has more than 767 digits. -/
def shortest (i : Interval) : Digits :=
  let magnitude := i.magnitude
  let hit := (List.range 767).findSome? fun (count : Nat) =>
    let unit := magnitude - ((count : Int) + 1)
    (i.inUnits unit).nearest?.map fun n => (Nat.toDigits 10 n, unit)
  match hit with
  | some (digits, unit) => ⟨trimZeros digits, unit + digits.length⟩
  | none => ⟨[], 0⟩

/-- How a decimal is laid out. -/
structure Layout where
  /-- Positional notation is used from this power of ten on. -/
  positionalFrom : Int
  /-- Positional notation is used below this power of ten. -/
  positionalBelow : Int
  /-- What separates the digits from the power of ten otherwise. -/
  exponentMark : String

/-- The digits in the layout. Positional notation has at least one digit on either side of the
point; otherwise the point stands behind the first digit, if there is a second one. -/
def Layout.render (layout : Layout) (d : Digits) : String :=
  if layout.positionalFrom < d.exponent ∧ d.exponent ≤ layout.positionalBelow then
    if d.exponent ≤ 0 then
      "0." ++ String.ofList (List.replicate (-d.exponent).toNat '0' ++ d.digits)
    else
      let whole := d.exponent.toNat
      let fraction := d.digits.drop whole
      String.ofList (d.digits.take whole ++ List.replicate (whole - d.digits.length) '0') ++ "." ++
        (if fraction.isEmpty then "0" else String.ofList fraction)
  else
    String.ofList (d.digits.take 1) ++
      (if d.digits.length ≤ 1 then "" else "." ++ String.ofList (d.digits.drop 1)) ++
      layout.exponentMark ++ Numeral.signedDecimal (d.exponent - 1)

end HeapInspector.Decimal
