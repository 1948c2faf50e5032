import Playout.Decimal.Shortest

/-!
# Positional text of binary numbers

Numbers are written without an exponent: the shortest decimal laid out around its point, with zeros
where it has no digits. A whole number has no point, and the sign of a negative zero is kept.
-/

namespace Playout.Decimal

open Binary

/-- The digits of a decimal laid out around the point. -/
def positional (d : Decimal) : String :=
  let digits := Nat.repr d.digits
  if 0 ≤ d.exponent then digits ++ String.ofList (List.replicate d.exponent.toNat '0')
  else
    let places := (-d.exponent).toNat
    let padded := List.replicate (places + 1 - digits.length) '0' ++ digits.toList
    let whole := padded.length - places
    String.ofList (padded.take whole) ++ "." ++ String.ofList (padded.drop whole)

/-- The text of a number of the format. -/
def text (f : Format) : Value → String
  | .nan => "NaN"
  | .infinite negative => if negative then "-inf" else "inf"
  | .finite negative magnitude exponent =>
    (if negative then "-" else "") ++
      if magnitude = 0 then "0" else (shortest f magnitude exponent).positional

def singleText (bits : UInt32) : String := text .single (Format.single.decode bits.toNat)

def doubleText (bits : UInt64) : String := text .double (Format.double.decode bits.toNat)

end Playout.Decimal
