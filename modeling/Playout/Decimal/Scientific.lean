import Playout.Decimal.Shortest

/-!
# Text of binary numbers with a point or an exponent

Numbers are written with the shortest decimal, and always so that they show they may have a fraction: with a
point where the point lies among the digits or not far from them, with an exponent where it does not.
-/

namespace Playout.Decimal

open Binary

/-- A point is written at most this far behind the first digit. -/
def farthestPoint : Int := 16

/-- A point is written at most this far in front of the first digit. -/
def nearestPoint : Int := -5

/-- The digits of a decimal with a point among them or near them, or with an exponent. -/
def scientific (d : Decimal) : String :=
  let digits := (Nat.repr d.digits).toList
  let point := digits.length + d.exponent
  let zeros (n : Int) := List.replicate n.toNat '0'
  let written :=
    if 0 ≤ d.exponent ∧ point ≤ farthestPoint then digits ++ zeros d.exponent ++ ['.', '0']
    else if 0 < point ∧ point ≤ farthestPoint then
      digits.take point.toNat ++ ['.'] ++ digits.drop point.toNat
    else if nearestPoint < point ∧ point ≤ 0 then ['0', '.'] ++ zeros (-point) ++ digits
    else
      let fraction := if digits.length = 1 then [] else '.' :: digits.drop 1
      digits.take 1 ++ fraction ++ ['e'] ++ (toString (point - 1)).toList
  String.ofList written

def scientificText (bits : UInt64) : String :=
  match Format.double.decode bits.toNat with
  | .finite negative magnitude exponent =>
    (if negative then "-" else "") ++
      if magnitude = 0 then "0.0" else (shortest .double magnitude exponent).scientific
  | other => if other.isNegative then "-inf" else if other = .nan then "NaN" else "inf"

end Playout.Decimal
