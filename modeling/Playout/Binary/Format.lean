/-!
# Binary floating point as exact numbers

A finite binary floating point number is an integer times a power of two. This module reads such
numbers off the interchange patterns of binary32 and binary64, and rounds an exact product back to the
nearest number that a given format can hold. Infinities and NaN go through products, comparisons and
clamping as the arithmetic of these formats has it.
-/

namespace Playout.Binary

/-- The number `mantissa * 2 ^ exponent`. -/
structure Scaled where
  mantissa : Int
  exponent : Int
deriving DecidableEq, Repr

/-- What an interchange pattern stands for. The sign of a zero or an infinity is its own bit. -/
inductive Value where
  | nan
  | infinite (negative : Bool)
  | finite (negative : Bool) (magnitude : Nat) (exponent : Int)
deriving DecidableEq, Repr

/-- The widths of an interchange format: bits of the stored fraction and of the exponent. -/
structure Format where
  fractionBits : Nat
  exponentBits : Nat

namespace Format

def single : Format := ⟨23, 8⟩

def double : Format := ⟨52, 11⟩

/-- The exponent of the last place of the smallest numbers. -/
def leastExponent (f : Format) : Int := 2 - Nat.pow 2 (f.exponentBits - 1) - f.fractionBits

/-- The exponent of the last place of the greatest numbers. -/
def greatestExponent (f : Format) : Int := f.leastExponent + Nat.pow 2 f.exponentBits - 3

/-- Splits a pattern into sign, exponent and fraction and names the number. -/
def decode (f : Format) (bits : Nat) : Value :=
  let fraction := bits % Nat.pow 2 f.fractionBits
  let biased := bits / Nat.pow 2 f.fractionBits % Nat.pow 2 f.exponentBits
  let negative := bits / Nat.pow 2 (f.fractionBits + f.exponentBits) % 2 == 1
  if biased = Nat.pow 2 f.exponentBits - 1 then
    if fraction = 0 then .infinite negative else .nan
  else if biased = 0 then .finite negative fraction f.leastExponent
  else .finite negative (Nat.pow 2 f.fractionBits + fraction) (f.leastExponent + (biased - 1))

/-- The quotient by `2 ^ places`, to the nearest integer and to the even one of two nearest. -/
def roundHalfEven (n places : Nat) : Nat :=
  let quotient := n / Nat.pow 2 places
  let rest := n % Nat.pow 2 places
  let half := Nat.pow 2 places / 2
  if places = 0 then n
  else if rest < half ∨ (rest = half ∧ quotient % 2 = 0) then quotient
  else quotient + 1

/-- How many low places of `magnitude * 2 ^ exponent` the format cannot hold. -/
def excessPlaces (f : Format) (magnitude : Nat) (exponent : Int) : Nat :=
  max (magnitude.log2 - f.fractionBits) (f.leastExponent - exponent).toNat

/-- The number of the format nearest to `x`, ties to even; the range above is not bounded. -/
def round (f : Format) (x : Scaled) : Scaled :=
  let places := f.excessPlaces x.mantissa.natAbs x.exponent
  let magnitude := roundHalfEven x.mantissa.natAbs places
  ⟨x.mantissa.sign * magnitude, x.exponent + places⟩

/-- The value of the format nearest to a finite number: beyond the range of the format, an infinity. -/
def nearest (f : Format) (negative : Bool) (magnitude : Nat) (exponent : Int) : Value :=
  let x := f.round ⟨magnitude, exponent⟩
  if f.greatestExponent + f.fractionBits < x.mantissa.natAbs.log2 + x.exponent then .infinite negative
  else .finite negative x.mantissa.natAbs x.exponent

def convert (f : Format) : Value → Value
  | .finite negative magnitude exponent => f.nearest negative magnitude exponent
  | v => v

/-- The product in the format. A zero times an infinity is not a number. -/
def multiply (f : Format) : Value → Value → Value
  | .nan, _ => .nan
  | _, .nan => .nan
  | .infinite negative, .infinite negative' => .infinite (negative != negative')
  | .infinite negative, .finite negative' magnitude _ =>
    if magnitude = 0 then .nan else .infinite (negative != negative')
  | .finite negative magnitude _, .infinite negative' =>
    if magnitude = 0 then .nan else .infinite (negative != negative')
  | .finite negative magnitude exponent, .finite negative' magnitude' exponent' =>
    f.nearest (negative != negative') (magnitude * magnitude') (exponent + exponent')

end Format

namespace Value

def isFinite : Value → Bool
  | .finite .. => true
  | _ => false

/-- Less than zero as a number; a negative zero is not. -/
def isNegative : Value → Bool
  | .nan => false
  | .infinite negative => negative
  | .finite negative magnitude _ => negative && magnitude != 0

end Value

namespace Scaled

def signed (negative : Bool) (magnitude : Nat) (exponent : Int) : Scaled :=
  ⟨if negative then -magnitude else magnitude, exponent⟩

/-- Which number is smaller shows on the mantissas at the smaller one of the exponents. -/
def isLess (x y : Scaled) : Bool :=
  let least := min x.exponent y.exponent
  x.mantissa * Nat.pow 2 (x.exponent - least).toNat < y.mantissa * Nat.pow 2 (y.exponent - least).toNat

/-- The integer part: the digits behind the binary point are dropped. -/
def truncate (x : Scaled) : Int :=
  if 0 ≤ x.exponent then x.mantissa * Nat.pow 2 x.exponent.toNat
  else x.mantissa.tdiv (Nat.pow 2 (-x.exponent).toNat)

end Scaled

namespace Value

def ofInt (n : Int) : Value := .finite (n < 0) n.natAbs 0

/-- Less than the other value. A NaN is not less than anything, nor is anything less than it. -/
def isLess : Value → Value → Bool
  | .nan, _ => false
  | _, .nan => false
  | .infinite negative, .infinite negative' => negative && !negative'
  | .infinite negative, .finite .. => negative
  | .finite .., .infinite negative => !negative
  | .finite negative magnitude exponent, .finite negative' magnitude' exponent' =>
    (Scaled.signed negative magnitude exponent).isLess (Scaled.signed negative' magnitude' exponent')

/-- Held between two values. A NaN stays one. -/
def clamp (v low high : Value) : Value :=
  let raised := if v.isLess low then low else v
  if high.isLess raised then high else raised

end Value

end Playout.Binary
