import Playout.Url.Error
import Playout.Url.Percent

/-!
# Numeric hosts

A host whose last part is a number is an IPv4 address, of one to four numbers, each decimal, octal behind a
`0` or hexadecimal behind `0x`; the last number fills the bytes that are left. A host in brackets is an IPv6
address of eight words, of which one run of zeros may be left out and the last two may be written as an IPv4
address. Both are written in one form: four decimal numbers, or lower-case words with the first of the
longest runs of zeros left out.
-/

namespace Playout.Url

/-! ## Numbers of an IPv4 address -/

/-- The number that digits of a base make; nothing if one is no digit of it. -/
def numberIn (base : Nat) (cs : List Char) : Option Nat :=
  cs.foldl (fun n c => do
    let n ← n
    let d ← hexValue? c
    guard (d < base)
    return base * n + d) (some 0)

/-- The base and the digits of a number. -/
def baseOf : List Char → Nat × List Char
  | '0' :: 'x' :: rest => (16, rest)
  | '0' :: 'X' :: rest => (16, rest)
  | '0' :: c :: rest => (8, c :: rest)
  | cs => (10, cs)

/-- A number of an IPv4 address, of any size. -/
def ipv4Number? (cs : List Char) : Option Nat :=
  if cs.isEmpty then none else numberIn (baseOf cs).1 (baseOf cs).2

/-- The parts of a text between dots. -/
def splitDots (cs : List Char) : List (List Char) :=
  cs.foldr (fun c parts =>
    if c = '.' then [] :: parts
    else
      match parts with
      | part :: rest => (c :: part) :: rest
      | [] => [[c]]) [[]]

/-- The parts of a host, without the empty one behind a final dot. -/
def hostParts (cs : List Char) : List (List Char) :=
  let parts := splitDots cs
  if parts.getLast? = some [] then parts.dropLast else parts

/-- The last part of the host is a number, so that the host is meant as an address. -/
def endsInNumber (cs : List Char) : Bool :=
  match (hostParts cs).getLast? with
  | none => false
  | some part => (!part.isEmpty && part.all Char.isDigit) || (ipv4Number? part).isSome

/-- The address that the numbers in front and the last number make. -/
def combineIpv4 (front : List Nat) (last : Nat) : Option Nat := do
  guard (front.length ≤ 3)
  guard (last < Nat.pow 256 (4 - front.length))
  guard (front.all (· < 256))
  return front.foldl (fun n part => 256 * n + part) 0 * Nat.pow 256 (4 - front.length) + last

def parseIpv4 (cs : List Char) : Except ParseError Nat :=
  match (hostParts cs).mapM ipv4Number? with
  | none => .error .ipv4
  | some numbers =>
    match numbers.getLast? with
    | none => .error .ipv4
    | some last =>
      match combineIpv4 numbers.dropLast last with
      | none => .error .ipv4
      | some address => .ok address

def ipv4Text (address : Nat) : String :=
  ".".intercalate ([0x1000000, 0x10000, 0x100, 1].map fun unit => toString (address / unit % 256))

/-! ## Words of an IPv6 address -/

/-- The words read so far, and how many of them stand in front of the run of zeros left out. -/
structure Words where
  words : List Nat
  gap : Option Nat
deriving DecidableEq, Repr

/-- Splits off at most `n` hexadecimal digits. -/
def takeHex : Nat → List Char → List Nat × List Char
  | 0, cs => ([], cs)
  | n + 1, cs =>
    match cs with
    | [] => ([], [])
    | c :: rest =>
      match hexValue? c with
      | none => ([], c :: rest)
      | some d => let (ds, left) := takeHex n rest; (d :: ds, left)

/-- A byte in decimal, without a leading zero. -/
def decimalByte? (cs : List Char) : Option Nat := do
  guard (!cs.isEmpty && cs.all Char.isDigit)
  guard (cs.length = 1 ∨ cs.head? ≠ some '0')
  let n ← numberIn 10 cs
  guard (n < 256)
  return n

/-- The two words of an IPv4 address at the end of an IPv6 address. -/
def trailingIpv4? (cs : List Char) : Option (List Nat) := do
  match ← (splitDots cs).mapM decimalByte? with
  | [a, b, c, d] => some [256 * a + b, 256 * c + d]
  | _ => none

theorem takeHex_length (n : Nat) (cs : List Char) :
    (takeHex n cs).1.length + (takeHex n cs).2.length = cs.length := by
  fun_induction takeHex n cs with
  | case1 => simp
  | case2 => simp
  | case3 => simp
  | case4 n c rest d hd ds left hr ih =>
    rw [hr] at ih
    simp only [List.length_cons] at *
    omega

/-- Reads the rest of an address behind the words `w`. -/
def ipv6Words (w : Words) (cs : List Char) : Option Words :=
  match cs with
  | [] => some w
  | c :: rest =>
    if 8 ≤ w.words.length + w.gap.toList.length then none
    else if c = ':' then
      if w.gap.isSome then none else ipv6Words ⟨w.words, some w.words.length⟩ rest
    else
      let taken := takeHex 4 (c :: rest)
      let word := taken.1.foldl (fun n d => 16 * n + d) 0
      match _h : taken.2 with
      | [] => some ⟨w.words ++ [word], w.gap⟩
      | ':' :: more =>
        if more.isEmpty ∨ taken.1.isEmpty then none else ipv6Words ⟨w.words ++ [word], w.gap⟩ more
      | '.' :: _ =>
        if taken.1.isEmpty ∨ 6 < w.words.length + w.gap.toList.length then none
        else (trailingIpv4? (c :: rest)).map fun two => ⟨w.words ++ two, w.gap⟩
      | _ :: _ => none
termination_by cs.length
decreasing_by
  · simp
  · have := takeHex_length 4 (c :: rest)
    rw [show (takeHex 4 (c :: rest)).2 = ':' :: more from _h] at this
    simp only [List.length_cons] at *
    omega

/-- The eight words, with zeros in the gap. -/
def Words.complete? (w : Words) : Option (List Nat) :=
  match w.gap with
  | none => if w.words.length = 8 then some w.words else none
  | some front =>
    some (w.words.take front ++ List.replicate (8 - w.words.length) 0 ++ w.words.drop front)

def parseIpv6 (cs : List Char) : Except ParseError (List Nat) :=
  let words := match cs with
    | ':' :: ':' :: rest => ipv6Words ⟨[], some 0⟩ rest
    | ':' :: _ => none
    | [] | [_] => none
    | cs => ipv6Words ⟨[], none⟩ cs
  match words.bind Words.complete? with
  | some words => .ok words
  | none => .error .ipv6

/-- Where the first of the longest runs of zeros starts and how long it is. -/
def longestZeros (words : List Nat) : Nat × Nat :=
  let run (i : Nat) := ((words.drop i).takeWhile (· = 0)).length
  (List.range words.length).foldl (fun (best : Nat × Nat) i =>
    if best.2 < run i then (i, run i) else best) (0, 0)

def wordsText (words : List Nat) : String :=
  ":".intercalate (words.map fun w => String.ofList (Nat.toDigits 16 w))

/-- An address without its brackets. A single zero word is written out. -/
def ipv6Text (words : List Nat) : String :=
  let (start, length) := longestZeros words
  if length < 2 then wordsText words
  else wordsText (words.take start) ++ "::" ++ wordsText (words.drop (start + length))

end Playout.Url
