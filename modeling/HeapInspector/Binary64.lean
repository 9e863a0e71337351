import HeapInspector.Decimal.Shortest

/-!
Floating-point numbers of 64 bits, kept as their bits. The inspector computes nothing with them: it
reads them and prints them.
-/

namespace HeapInspector

structure Binary64 where
  bits : UInt64
  deriving DecidableEq, Repr

namespace Binary64

def isNegative (x : Binary64) : Bool := 1 <<< 63 ≤ x.bits.toNat

def exponentField (x : Binary64) : Nat := (x.bits.toNat >>> 52) % (1 <<< 11)

def fraction (x : Binary64) : Nat := x.bits.toNat % (1 <<< 52)

def isNan (x : Binary64) : Bool := x.exponentField = 2047 ∧ x.fraction ≠ 0

def isInfinite (x : Binary64) : Bool := x.exponentField = 2047 ∧ x.fraction = 0

def isZero (x : Binary64) : Bool := x.exponentField = 0 ∧ x.fraction = 0

/-- The absolute value of a finite number is `significand * 2 ^ scale`. -/
def significand (x : Binary64) : Nat :=
  if x.exponentField = 0 then x.fraction else (1 <<< 52) + x.fraction

def scale (x : Binary64) : Int :=
  if x.exponentField = 0 then -1074 else (x.exponentField : Int) - 1075

/-- The numbers that round to the absolute value of a finite number other than zero: those up to
halfway to its neighbours, and the halfway points too if the significand is even. Below a power of
two the neighbour is only half as far away as above it, except at the least normal number. -/
def interval (x : Binary64) : Decimal.Interval :=
  let quarter := x.scale - 2
  let up := 1 <<< quarter.toNat
  let four := 4 * x.significand
  let down := if x.fraction = 0 ∧ 1 < x.exponentField then 1 else 2
  { value := four * up
    low := (four - down) * up
    high := (four + 2) * up
    denominator := 1 <<< (-quarter).toNat
    closed := x.significand % 2 = 0 }

/-- Floating-point numbers are written positionally from `10 ^ (-4)` up to below `10 ^ 16`. -/
def layout : Decimal.Layout := ⟨-4, 16, "e"⟩

/-- The shortest decimal that reads back as the number. A NaN is shown without sign and payload. -/
def text (x : Binary64) : String :=
  if x.isNan then "NaN"
  else
    (if x.isNegative then "-" else "") ++
      (if x.isInfinite then "inf"
       else if x.isZero then "0.0"
       else layout.render (Decimal.shortest x.interval))

end Binary64

end HeapInspector
