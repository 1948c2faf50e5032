import Playout.Text.Composed
import Playout.Text.Direction
import Playout.Text.Joining
import Playout.Url.Folding
import Playout.Url.Punycode

/-!
# Labels

A name is made of labels. A label is read in one form: case and shape replaced, composed, and written out if
it was coded in ASCII. It may not start with a mark, a character that is not seen has to stand where its
script has a use for it, and in a name that is written in both directions each label has to go one way.
-/

namespace Playout.Url

open Text (Direction direction markClass vowelKiller isMark joinsForward joinsBackward composed)

/-! ## Characters -/

/-- Characters in ASCII that no name may hold. -/
def isForbidden (c : Char) : Bool :=
  c.toNat ≤ 0x20 || c.toNat = 0x7f ||
    ['#', '%', '/', ':', '<', '>', '?', '@', '[', '\\', ']', '^', '|'].contains c

/-- A text in the form in which names are compared, if a name may hold it. -/
def canonical? (cs : List Char) : Option (List Char) := do
  let name := composed (← fold? cs)
  guard (!name.any isForbidden)
  return name

/-- Keeps the letters on its sides from joining each other. -/
def nonJoiner : Char := Char.ofNat 0x200c

/-- Makes the letters on its sides join each other. -/
def joiner : Char := Char.ofNat 0x200d

/-- Each joiner follows a consonant without a vowel, or keeps two letters apart that would join. What stands
in front is given last character first. -/
def joinersFit (front : List Char) : List Char → Bool
  | [] => true
  | c :: rest =>
    let fits := front.head?.any (markClass · = vowelKiller) ||
      (c = nonJoiner && joinsBackward front && joinsForward rest)
    (if c = nonJoiner ∨ c = joiner then fits else true) && joinersFit (c :: front) rest

/-! ## Forms -/

/-- What a label in ASCII letters starts with. -/
def codedMark : List Char := ['x', 'n', '-', '-']

/-- The most characters of a label that is not in ASCII, and of one that codes such a label. -/
def longestLabel : Nat := 1000
def longestCoded : Nat := 2000

/-- A label whose characters are all in ASCII. -/
def isPlain (label : List Char) : Bool := label.all (·.toNat < Punycode.firstCoded)

/-- A canonical label that a name may have. -/
def isLabel (label : List Char) : Bool :=
  isPlain label ||
    (!label.head?.any isMark && joinersFit [] label && label.length ≤ longestLabel)

/-- The label that a coded label stands for. It would be coded the same way, so it is canonical. -/
def decodeLabel? (label : List Char) : Option (List Char) := do
  let written := label.drop codedMark.length
  guard (label.getLast? ≠ some '-' ∧ written.length ≤ longestCoded)
  let decoded ← Punycode.decode written
  guard (canonical? decoded = some decoded)
  return decoded

def readLabel? (label : List Char) : Option (List Char) := do
  let label ← if codedMark.isPrefixOf label then decodeLabel? label else some label
  guard (isLabel label)
  return label

def writeLabel (label : List Char) : List Char :=
  if isPlain label then label else codedMark ++ Punycode.encode label

/-! ## Direction -/

/-- May stand in a label written to the right. -/
def goesRight (d : Direction) : Bool :=
  !([Direction.left, .arabicLetter, .arabicDigit].contains d)

/-- May stand in a label written to the left. -/
def goesLeft (d : Direction) : Bool := d ≠ .right

/-- A label goes one way: it starts with a letter, all of it goes the way of that letter, it ends with a
letter or a digit, marks aside, and if it goes to the left, its digits are of one kind. -/
def goesOneWay (label : List Char) : Bool :=
  let kinds := label.map direction
  let last := kinds.reverse.find? (· ≠ .mark)
  match kinds.head? with
  | none => true
  | some .right =>
    kinds.all goesRight && last.any [Direction.right, .europeanDigit].contains
  | some .left | some .arabicLetter =>
    kinds.all goesLeft &&
      last.any [Direction.left, .arabicLetter, .europeanDigit, .arabicDigit].contains &&
      !(kinds.contains .europeanDigit && kinds.contains .arabicDigit)
  | some _ => false

/-- In a name with letters written to the left each label goes one way. -/
def directionsFit (labels : List (List Char)) : Bool :=
  if labels.any (·.any Text.turnsLeft) then labels.all goesOneWay else true

end Playout.Url
