/-!
# Tables of characters

What holds of a character is kept for whole runs of characters, by their numbers. The runs of a table ascend,
so the run of a character is found by halving. A table is written as words: the first and the last number of
the run in base 16, then, behind a mark, what holds of it. Main statement: a run that is found holds the
character (`Runs.run?_spec`).
-/

namespace Playout.Text

/-- Characters that follow one another, and what holds of them. -/
structure Run (α : Type) where
  first : Nat
  last : Nat
  value : α
deriving DecidableEq, Repr

/-- A table: runs that ascend. -/
abbrev Runs (α : Type) := Array (Run α)

namespace Runs

variable {α : Type}

/-! ## Looking up -/

/-- The run of the character of number `n` among those from place `low` up to place `high`. -/
def between? (runs : Runs α) (n low high : Nat) : Option (Run α) :=
  if low < high then
    match runs[(low + high) / 2]? with
    | none => none
    | some run =>
      if n < run.first then between? runs n low ((low + high) / 2)
      else if run.last < n then between? runs n ((low + high) / 2 + 1) high
      else some run
  else none
termination_by high - low

def run? (runs : Runs α) (n : Nat) : Option (Run α) := runs.between? n 0 runs.size

def value? (runs : Runs α) (n : Nat) : Option α := (runs.run? n).map (·.value)

theorem between?_spec {runs : Runs α} {n low high : Nat} {run : Run α}
    (h : runs.between? n low high = some run) : run.first ≤ n ∧ n ≤ run.last := by
  fun_induction between? runs n low high with
  | case1 => cases h
  | case2 _ _ _ _ _ _ ih => exact ih h
  | case3 _ _ _ _ _ _ _ ih => exact ih h
  | case4 => cases h; omega
  | case5 => cases h

theorem run?_spec {runs : Runs α} {n : Nat} {run : Run α} (h : runs.run? n = some run) :
    run.first ≤ n ∧ n ≤ run.last := between?_spec h

/-! ## The written form -/

/-- The value of a digit in base 16 with small letters. -/
def digit? (c : Char) : Option Nat :=
  if '0' ≤ c ∧ c ≤ '9' then some (c.toNat - 48)
  else if 'a' ≤ c ∧ c ≤ 'f' then some (c.toNat - 87)
  else none

/-- Reads the number in front; there is none where no digit stands. -/
def readNumber (sum : Nat) : List Char → Nat × List Char
  | [] => (sum, [])
  | c :: rest =>
    match digit? c with
    | some d => readNumber (16 * sum + d) rest
    | none => (sum, c :: rest)

/-- Reads a number that is a word of its own. -/
def number (word : List Char) : Nat := (readNumber 0 word).1

/-- Cuts a text at the characters that `cuts` names. -/
def pieces (cuts : Char → Bool) : List Char → List (List Char)
  | [] => [[]]
  | c :: rest =>
    if cuts c then [] :: pieces cuts rest
    else
      match pieces cuts rest with
      | [] => [[c]]
      | piece :: more => (c :: piece) :: more

/-- Characters one after another, each spelled by others: commas between the spellings, points inside. -/
def spellings (word : List Char) : List (List Nat) :=
  (pieces (· = ',') word).map fun spelling => (pieces (· = '.') spelling).map number

def readRun (value : List Char → α) (word : List Char) : Run α :=
  match readNumber 0 word with
  | (first, '-' :: rest) =>
    let (last, rest) := readNumber 0 rest
    ⟨first, last, value rest⟩
  | (first, rest) => ⟨first, first, value rest⟩

/-- Reads a table; `value` reads what stands behind the numbers of a run. -/
def ofText (value : List Char → α) (text : String) : Runs α :=
  (((pieces Char.isWhitespace text.toList).filter (!·.isEmpty)).map (readRun value)).toArray

end Runs

end Playout.Text
