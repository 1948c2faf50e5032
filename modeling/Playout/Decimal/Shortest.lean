import Playout.Binary.Format

/-!
# Shortest decimals

A binary number is written with the fewest decimal digits that still read back as the same number, and
of those it takes the decimal nearest to it. The reals that read back as a number form an interval
around it, which reaches halfway to both neighbours. The search walks the decimal grids from coarse to
fine and stops at the first grid with a point in the interval.
-/

namespace Playout

open Binary

/-- The number `digits * 10 ^ exponent`. -/
structure Decimal where
  digits : Nat
  exponent : Int
deriving DecidableEq, Repr

namespace Decimal

/-- A positive number between the two ends of the interval that reads back as it, as numerators over
one denominator. The ends belong to the interval when `closed`. -/
structure Interval where
  low : Nat
  value : Nat
  high : Nat
  denominator : Nat
  closed : Bool

namespace Interval

/-- The interval of `magnitude * 2 ^ exponent`. Below a power of two the neighbour is twice as near. -/
def around (f : Format) (magnitude : Nat) (exponent : Int) : Interval :=
  let below := if magnitude = Nat.pow 2 f.fractionBits then 1 else 2
  let up := Nat.pow 2 exponent.toNat
  let down := Nat.pow 2 (-exponent).toNat
  { low := (4 * magnitude - below) * up
    value := 4 * magnitude * up
    high := (4 * magnitude + 2) * up
    denominator := 4 * down
    closed := magnitude % 2 == 0 }

/-- The same interval in units of `10 ^ place`. -/
def inUnits (i : Interval) (place : Int) : Interval :=
  let finer := Nat.pow 10 (-place).toNat
  { i with
    low := i.low * finer, value := i.value * finer, high := i.high * finer
    denominator := i.denominator * Nat.pow 10 place.toNat }

def holds (i : Interval) (n : Nat) : Bool :=
  let point := n * i.denominator
  if i.closed then i.low ≤ point && point ≤ i.high else i.low < point && point < i.high

/-- The integer of the interval nearest to the value; of two equally near the larger. -/
def nearest? (i : Interval) : Option Nat :=
  let under := i.value / i.denominator
  let above := under + 1
  let nearUnder := 2 * (i.value % i.denominator) < i.denominator
  match i.holds under, i.holds above with
  | true, true => some (if nearUnder then under else above)
  | true, false => some under
  | false, true => some above
  | false, false => none

end Interval

/-- The first grid at or below `place` that has a point in the interval. -/
def search (i : Interval) (place : Int) : Nat → Option Decimal
  | 0 => none
  | fuel + 1 =>
    match (i.inUnits place).nearest? with
    | some n => some ⟨n, place⟩
    | none => search i (place - 1) fuel

def digitCount (n : Nat) : Nat := (Nat.toDigits 10 n).length

/-- The shortest decimal of `magnitude * 2 ^ exponent`, for a positive magnitude. Twenty-one grids
reach from above the first digit to below the seventeenth. -/
def shortest (f : Format) (magnitude : Nat) (exponent : Int) : Decimal :=
  let i := Interval.around f magnitude exponent
  let top : Int := digitCount i.value - digitCount i.denominator + 1
  (search i top 21).getD ⟨0, 0⟩

end Decimal

end Playout
