import Playout.Decimal.Scientific
import Playout.Json.Reader

/-!
# Numbers in JSON

A number without a point and an exponent is a whole number as long as it fits 64 bits; every other one is a
binary64. Its digits go into a significand of 64 bits as long as they fit. Behind the first one that does not,
digits in front of the point only count, and digits behind it are passed over. The significand is then
multiplied or divided once by a power of ten, so that the result may miss the nearest binary64 by a little.
-/

namespace Playout.Json

inductive Number where
  | natural (n : Nat)
  /-- The negative of a positive number. -/
  | negative (n : Nat)
  | real (x : Float)
deriving Repr

/-- A number as a message names it. -/
def Number.described : Number → String
  | .natural n => s!"integer `{n}`"
  | .negative n => s!"integer `-{n}`"
  | .real x => s!"floating point `{Decimal.scientificText x.toBits}`"

/-- Appends digits to a significand as long as it fits 64 bits. The rest starts at the first digit that makes
it larger. -/
def significand (n : Nat) : List Nat → Nat × List Nat
  | [] => (n, [])
  | d :: ds => if 10 * n + d < 0x10000000000000000 then significand (10 * n + d) ds else (n, d :: ds)

def digit? (c : Char) : Option Nat := if c.isDigit then some (c.toNat - 48) else none

def powerOfTen (n : Nat) : Float := Float.ofScientific 1 false n

def largestPower : Nat := 308

/-- The number `n * 10 ^ exponent`, up to two roundings, if it is not too large. -/
def scaled? (n : Nat) (exponent : Int) : Option Float :=
  let x := n.toUInt64.toFloat
  let size := exponent.natAbs
  if 0 ≤ exponent then
    if size ≤ largestPower then
      let y := x * powerOfTen size
      if y.isInf then none else some y
    else if n = 0 then some 0 else none
  else if size ≤ largestPower then some (x / powerOfTen size)
  else if size ≤ 2 * largestPower then
    some (x / powerOfTen largestPower / powerOfTen (size - largestPower))
  else some 0

/-- Appends digits to an exponent as long as it fits a signed 32-bit number. Tells whether all did, and what
is left behind the last digit looked at. -/
def exponentDigits (n : Nat) : Bytes → (Nat × Bool) × Bytes
  | [] => ((n, true), [])
  | b :: left =>
    match digit? (mark b) with
    | none => ((n, true), b :: left)
    | some d => if 10 * n + d < 0x80000000 then exponentDigits (10 * n + d) left else ((n, false), left)

namespace Reader

def digits : Reader (List Nat) := fun bs =>
  .ok ((bs.takeWhile fun b => (mark b).isDigit).filterMap fun b => digit? (mark b),
    bs.dropWhile fun b => (mark b).isDigit)

def real (positive : Bool) (x : Float) : Number := .real (if positive then x else -x)

/-- The real number of a significand and an exponent that were read. -/
def scaled (positive : Bool) (n : Nat) (exponent : Int) : Reader Number :=
  match scaled? n exponent with
  | some x => return real positive x
  | none => fail .outOfRange

/-- Takes an exponent, from its mark on. -/
def exponentPart (positive : Bool) (n : Nat) (shift : Int) : Reader Number := do
  let _ ← take
  let sign ← peek
  if sign = some '+' ∨ sign = some '-' then
    let _ ← take
  match ← take with
  | none => fail .endInValue
  | some c =>
    match digit? c with
    | none => fail .number
    | some d =>
      match exponentDigits d (← get) with
      | ((size, true), left) =>
        set left
        scaled positive n (if sign = some '-' then shift - size else shift + size)
      | ((_, false), left) =>
        set left
        if n ≠ 0 ∧ sign ≠ some '-' then fail .outOfRange
        else
          let _ ← digits
          return real positive 0

/-- Takes a fraction, from its point on. -/
def fractionPart (positive : Bool) (n : Nat) (shift : Int) : Reader Number := do
  let _ ← take
  let ds ← digits
  if ds.isEmpty then
    match ← peek with
    | some _ => failNext .number
    | none => failNext .endInValue
  else
    let (n, passed) := significand n ds
    let shift := shift - (ds.length - passed.length)
    match ← peek with
    | some 'e' | some 'E' => exponentPart positive n shift
    | _ => scaled positive n shift

def number (positive : Bool) : Reader Number := do
  match ← take with
  | none => fail .endInValue
  | some c =>
    match digit? c with
    | none => fail .number
    | some first =>
      let next ← peek
      if first = 0 ∧ (next.bind digit?).isSome then failNext .number
      else
        let more ← if first = 0 then pure [] else digits
        let (n, passed) := significand first more
        match ← peek with
        | some '.' => fractionPart positive n passed.length
        | some 'e' | some 'E' => exponentPart positive n passed.length
        | _ =>
          if passed ≠ [] then scaled positive n passed.length
          else if positive then return .natural n
          else if 0 < n ∧ n ≤ 0x8000000000000000 then return .negative n
          else return real false n.toUInt64.toFloat

end Reader

end Playout.Json
