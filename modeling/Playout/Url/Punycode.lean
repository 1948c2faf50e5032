/-!
# Labels in ASCII letters

A label of a domain name that holds characters outside ASCII is written in ASCII: first its ASCII characters,
then for each other character, in the order of their numbers, how far the writer has to go on, counted in
characters and places, since the one before it. A distance is written in digits of base 36 whose thresholds
adapt to the distances seen so far.
-/

namespace Playout.Url.Punycode

/-- The first character that is not written as it stands. -/
def firstCoded : Nat := 128

/-- The digit of a value below 36. -/
def digit (v : Nat) : Char := if v < 26 then Char.ofNat (97 + v) else Char.ofNat (48 + (v - 26))

def digitValue? (c : Char) : Option Nat :=
  if 'a' ≤ c ∧ c ≤ 'z' then some (c.toNat - 97)
  else if 'A' ≤ c ∧ c ≤ 'Z' then some (c.toNat - 65)
  else if '0' ≤ c ∧ c ≤ '9' then some (c.toNat - 48 + 26)
  else none

/-- Digits below the threshold of their place end a number. -/
def threshold (place bias : Nat) : Nat := max 1 (min 26 (place - bias))

theorem threshold_pos (place bias : Nat) : 1 ≤ threshold place bias := Nat.le_max_left ..

/-- Divides a distance down to the size of one digit, adding a place each time. -/
def settle (distance places : Nat) : Nat :=
  if 455 < distance then settle (distance / 35) (places + 36)
  else places + 36 * distance / (distance + 38)
termination_by distance
decreasing_by omega

/-- The bias behind a distance, with `count` characters written; the first distance counts for less. -/
def adapt (distance count : Nat) (first : Bool) : Nat :=
  let halved := if first then distance / 700 else distance / 2
  settle (halved + halved / count) 0

/-! ## Writing -/

def writeDistance (bias place distance : Nat) : List Char :=
  let t := threshold place bias
  if distance < t then [digit distance]
  else
    digit (t + (distance - t) % (36 - t)) ::
      writeDistance bias (place + 36) ((distance - t) / (36 - t))
termination_by distance
decreasing_by
  have := threshold_pos place bias
  calc (distance - t) / (36 - t) ≤ distance - t := Nat.div_le_self ..
    _ < distance := by omega

/-- A label that is half written. -/
structure Progress where
  written : List Char
  distance : Nat
  bias : Nat
  /-- Characters written, the ASCII ones included. -/
  count : Nat
  first : Bool
deriving DecidableEq, Repr

/-- Passes one character of the label while the character of number `target` is written. -/
def pass (target : Nat) (p : Progress) (c : Char) : Progress :=
  if c.toNat < target then { p with distance := p.distance + 1 }
  else if c.toNat = target then
    { written := p.written ++ writeDistance p.bias 36 p.distance
      distance := 0
      bias := adapt p.distance (p.count + 1) p.first
      count := p.count + 1
      first := false }
  else p

/-- Writes the characters of the numbers `targets`, which ascend from `next`. -/
def writeAll (label : List Char) : List Nat → Nat → Progress → List Char
  | [], _, p => p.written
  | target :: rest, next, p =>
    let p := { p with distance := p.distance + (target - next) * (p.count + 1) }
    let p := label.foldl (pass target) p
    writeAll label rest (target + 1) { p with distance := p.distance + 1 }

/-- The characters of the label outside ASCII, each once, by number. -/
def targets (label : List Char) : List Nat :=
  (((label.map Char.toNat).filter (firstCoded ≤ ·)).mergeSort (· ≤ ·)).eraseDups

def encode (label : List Char) : List Char :=
  let plain := label.filter (·.toNat < firstCoded)
  let front := if plain.isEmpty then [] else plain ++ ['-']
  front ++ writeAll label (targets label) firstCoded ⟨[], 0, 72, plain.length, true⟩

/-! ## Reading -/

/-- No distance reaches this, and no weight of a digit. -/
def distanceLimit : Nat := 4294967296

/-- Reads a distance: where it leads from `start`, and what follows it. -/
def readDistance (bias place weight start : Nat) : List Char → Option (Nat × List Char)
  | [] => none
  | c :: rest =>
    match digitValue? c with
    | none => none
    | some d =>
      let t := threshold place bias
      if distanceLimit ≤ weight ∨ distanceLimit ≤ start + d * weight then none
      else if d < t then some (start + d * weight, rest)
      else readDistance bias (place + 36) (weight * (36 - t)) (start + d * weight) rest

theorem readDistance_length {bias place weight start stop : Nat} {cs rest : List Char}
    (h : readDistance bias place weight start cs = some (stop, rest)) : rest.length < cs.length := by
  fun_induction readDistance bias place weight start cs with
  | case1 => cases h
  | case2 => cases h
  | case3 => cases h
  | case4 => cases h; simp
  | case5 place weight start c cs d hd t hw ht ih =>
    have := ih h
    simp only [List.length_cons]
    omega

/-- Puts one character after another into the label. -/
def readAll (bias next place : Nat) (first : Bool) (label : List Char) (cs : List Char) :
    Option (List Char) :=
  if cs.isEmpty then some label
  else
    match _h : readDistance bias 36 1 place cs with
    | none => none
    | some (stop, rest) =>
      let count := label.length + 1
      let number := next + stop / count
      if number.isValidChar then
        readAll (adapt (stop - place) count first) number (stop % count + 1) false
          (label.insertIdx (stop % count) (Char.ofNat number)) rest
      else none
termination_by cs.length
decreasing_by exact readDistance_length _h

/-- Reads a written label. The last hyphen ends the ASCII characters, if there are any. -/
def decode (written : List Char) : Option (List Char) :=
  let tail := (written.reverse.takeWhile (· ≠ '-')).reverse
  let front := written.take (written.length - tail.length - 1)
  if front.isEmpty then readAll 72 firstCoded 0 true [] written
  else if front.all (·.toNat < firstCoded) then readAll 72 firstCoded 0 true front tail
  else none

end Playout.Url.Punycode
