import Playout.Json.Fault

/-!
# Reading JSON from front to back

A reader takes bytes off the front of a text or tells what is wrong. Marks, words and blanks are ASCII; other
characters stand only inside texts. A fault lies at the last byte read, or at the byte that was looked at and
not taken.
-/

namespace Playout.Json

/-- Takes something off the front of a text. -/
abbrev Reader := StateT Bytes (Except Fault)

/-- A byte as the character it is in ASCII. -/
def mark (b : UInt8) : Char := Char.ofNat b.toNat

def isBlank (b : UInt8) : Bool := [' ', '\n', '\t', '\r'].contains (mark b)

namespace Reader

/-- Something is wrong at the last byte read. -/
def fail {α : Type} (cause : Cause) : Reader α := fun bs => .error ⟨cause, bs.length⟩

/-- Something is wrong at the next byte, or at the end. -/
def failNext {α : Type} (cause : Cause) : Reader α := fun bs => .error ⟨cause, bs.length - 1⟩

/-- Something is wrong with what was read, which is told behind what closes it. -/
def failBehind {α : Type} (leave : Bytes → Bytes) (cause : Cause) : Reader α := fun bs =>
  .error ⟨cause, (leave bs).length⟩

def peek : Reader (Option Char) := fun bs => .ok (bs.head?.map mark, bs)

def peekMark : Reader (Option Char) := fun bs =>
  let bs := bs.dropWhile isBlank
  .ok (bs.head?.map mark, bs)

def take : Reader (Option Char) := fun bs => .ok (bs.head?.map mark, bs.drop 1)

def word : List Char → Reader Unit
  | [] => return
  | c :: cs => do
    match ← take with
    | none => fail .endInValue
    | some d => if d = c then word cs else fail .noWord

end Reader

/-! ## Texts -/

def digit16? (b : UInt8) : Option Nat :=
  let n := b.toNat
  if 48 ≤ n ∧ n ≤ 57 then some (n - 48)
  else if 97 ≤ n ∧ n ≤ 102 then some (n - 87)
  else if 65 ≤ n ∧ n ≤ 70 then some (n - 55)
  else none

/-- What is left of a text when something was taken off it. -/
abbrev Less (bs : Bytes) := { left : Bytes // left.length < bs.length }

def codeUnit : (bs : Bytes) → Except Fault (Nat × Less bs)
  | a :: b :: c :: d :: left =>
    match digit16? a, digit16? b, digit16? c, digit16? d with
    | some a, some b, some c, some d =>
      .ok (((a * 16 + b) * 16 + c) * 16 + d, ⟨left, by simp only [List.length_cons]; omega⟩)
    | _, _, _, _ => .error ⟨.escape, left.length⟩
  | _ => .error ⟨.endInText, 0⟩

/-- The first of a pair of units. -/
def isLeading (unit : Nat) : Bool := 0xd800 ≤ unit && unit ≤ 0xdbff

/-- The second of a pair of units. -/
def isTrailing (unit : Nat) : Bool := 0xdc00 ≤ unit && unit ≤ 0xdfff

/-- Takes a character written as one unit, or as a pair. -/
def escapedUnits (bs : Bytes) : Except Fault (Bytes × Less bs) := do
  let (unit, ⟨left, hleft⟩) ← codeUnit bs
  if isTrailing unit then .error ⟨.surrogate, left.length⟩
  else if !isLeading unit then .ok (String.utf8EncodeChar (Char.ofNat unit), ⟨left, hleft⟩)
  else
    match left, hleft with
    | [], _ => .error ⟨.endInText, 0⟩
    | [a], _ => .error ⟨if mark a = '\\' then .endInText else .halfSurrogate, 0⟩
    | a :: b :: left, hleft =>
      if mark a ≠ '\\' then .error ⟨.halfSurrogate, left.length + 1⟩
      else if mark b ≠ 'u' then .error ⟨.halfSurrogate, left.length⟩
      else
        let (second, ⟨rest, hrest⟩) ← codeUnit left
        if !isTrailing second then .error ⟨.surrogate, rest.length⟩
        else
          let point := (unit - 0xd800) * 0x400 + (second - 0xdc00) + 0x10000
          .ok (String.utf8EncodeChar (Char.ofNat point),
            ⟨rest, by simp only [List.length_cons] at hleft; omega⟩)

/-- What the character behind a backslash stands for. -/
def escaped? : Char → Option UInt8
  | '"' => some 0x22
  | '\\' => some 0x5c
  | '/' => some 0x2f
  | 'b' => some 0x08
  | 'f' => some 0x0c
  | 'n' => some 0x0a
  | 'r' => some 0x0d
  | 't' => some 0x09
  | _ => none

/-- Takes what stands behind a backslash. -/
def escape : (bs : Bytes) → Except Fault (Bytes × Less bs)
  | [] => .error ⟨.endInText, 0⟩
  | b :: left =>
    match escaped? (mark b) with
    | some c => .ok ([c], ⟨left, by simp⟩)
    | none =>
      if mark b ≠ 'u' then .error ⟨.escape, left.length⟩
      else (escapedUnits left).map fun (cs, ⟨rest, h⟩) =>
        (cs, ⟨rest, by simp only [List.length_cons]; omega⟩)

/-- Takes the rest of a text and its closing quote. -/
def textBytes (bs : Bytes) : Except Fault (Bytes × Bytes) :=
  match bs with
  | [] => .error ⟨.endInText, 0⟩
  | b :: left =>
    if mark b = '"' then .ok ([], left)
    else if mark b = '\\' then do
      let (cs, ⟨rest, _⟩) ← escape left
      let (more, rest) ← textBytes rest
      .ok (cs ++ more, rest)
    else if b < 0x20 then .error ⟨.controlCharacter, left.length⟩
    else do
      let (more, rest) ← textBytes left
      .ok (b :: more, rest)
termination_by bs.length
decreasing_by
  · simp only [List.length_cons]; omega
  · simp

/-- Takes the rest of a text whose value does not matter. -/
def skipText (bs : Bytes) : Except Fault Bytes :=
  match bs with
  | [] => .error ⟨.endInText, 0⟩
  | b :: left =>
    if mark b = '"' then .ok left
    else if mark b = '\\' then
      match left with
      | [] => .error ⟨.endInText, 0⟩
      | c :: left =>
        if (escaped? (mark c)).isSome then skipText left
        else if mark c ≠ 'u' then .error ⟨.escape, left.length⟩
        else do
          let (_, ⟨rest, _⟩) ← codeUnit left
          skipText rest
    else if b < 0x20 then .error ⟨.controlCharacter, left.length + 1⟩
    else skipText left
termination_by bs.length
decreasing_by
  · simp only [List.length_cons]; omega
  · simp only [List.length_cons]; omega
  · simp

namespace Reader

/-- Takes the rest of a text behind its opening quote. -/
def restOfText : Reader String := fun bs =>
  match textBytes bs with
  | .error fault => .error fault
  | .ok (content, left) =>
    match String.fromUTF8? ⟨content.toArray⟩ with
    | some text => .ok (text, left)
    | none => .error ⟨.codePoint, left.length⟩

def passText : Reader Unit := fun bs => (skipText bs).map fun left => ((), left)

end Reader

end Playout.Json
