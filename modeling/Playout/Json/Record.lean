import Playout.Json.Value

/-!
# Records in JSON

A record is wanted with certain members. It is read from an object, whose members may stand in any order, each
at most once and beside others that are passed over, or from a list of the values of the members in order. A
required member must be there; another one may be left out, at the end of a list.
-/

namespace Playout.Json

/-- A member that a record is wanted with. -/
structure Member (σ : Type) where
  name : String
  required : Bool := false
  /-- Reads its value into the record. -/
  read : σ → Reader σ

structure Shape (σ : Type) where
  /-- What messages call it. -/
  name : String
  members : List (Member σ)

def leaveObject (bs : Bytes) : Bytes :=
  let bs := bs.dropWhile isBlank
  if bs.head?.map mark = some '\x7d' then bs.drop 1 else bs

/-- Passes over the end of a list or a comma, if it is next. -/
def leaveList (bs : Bytes) : Bytes :=
  let bs := bs.dropWhile isBlank
  match bs.head?.map mark with
  | some ']' => bs.drop 1
  | some ',' => (bs.drop 1).dropWhile isBlank
  | _ => bs

namespace Reader

def nextName (first : Bool) : Reader (Option String) := do
  match ← peekMark with
  | none => failNext .endInObject
  | some c =>
    if c = '\x7d' then return none
    else if c = ',' ∧ !first then
      let _ ← take
      match ← peekMark with
      | some '"' => let _ ← take; return some (← restOfText)
      | some '\x7d' => failNext .trailingComma
      | some _ => failNext .noKey
      | none => failNext .endInValue
    else if !first then failNext .noObjectMark
    else if c = '"' then
      let _ ← take
      return some (← restOfText)
    else failNext .noKey

def colon : Reader Unit := do
  match ← peekMark with
  | some ':' => let _ ← take
  | some _ => failNext .noColon
  | none => failNext .endInObject

/-- Goes to the next value of a list. Tells whether there is one. -/
def nextValue (first : Bool) : Reader Bool := do
  match ← peekMark with
  | none => failNext .endInList
  | some c =>
    if c = ']' then return false
    else if c = ',' ∧ !first then
      let _ ← take
      match ← peekMark with
      | some ']' => failNext .trailingComma
      | some _ => return true
      | none => failNext .endInValue
    else if first then return true
    else failNext .noListMark

def endOfList : Reader Unit := do
  match ← peekMark with
  | some ']' => let _ ← take
  | some ',' =>
    let _ ← take
    if (← peekMark) = some ']' then failNext .trailingComma else failNext .trailing
  | some _ => failNext .trailing
  | none => failNext .endInList

variable {σ : Type}

/-- Reads up to `n` members of an object into a record: the names of those that were wanted, and the record. -/
def members (shape : Shape σ) (seen : List String) (r : σ) (first : Bool) :
    (n : Nat) → Reader (List String × σ)
  | 0 => failNext .endInObject
  | n + 1 => do
    match ← nextName first with
    | none => return (seen, r)
    | some name =>
      match shape.members.find? (·.name = name) with
      | none =>
        colon
        pass
        members shape seen r false n
      | some m =>
        if name ∈ seen then failBehind leaveObject (.duplicate name)
        else
          colon
          members shape (name :: seen) (← m.read r) false n

/-- Reads an object from its brace on. Each member takes a byte or more. -/
def object (shape : Shape σ) (r : σ) : Reader σ := do
  let _ ← take
  let (seen, r) ← members shape [] r true ((← get).length + 1)
  match shape.members.find? fun m => m.required && !seen.contains m.name with
  | some m => failBehind leaveObject (.missing m.name)
  | none =>
    let _ ← take
    return r

/-- Reads the values of members in order. -/
def values (wanted : String) (first : Bool) (i : Nat) (r : σ) : List (Member σ) → Reader σ
  | [] => return r
  | m :: ms => do
    if ← nextValue first then values wanted false (i + 1) (← m.read r) ms
    else if m.required then failBehind leaveList (.tooShort i wanted)
    else values wanted first (i + 1) r ms

def list (shape : Shape σ) (r : σ) : Reader σ := do
  let _ ← take
  let r ← values s!"{shape.name} with {shape.members.length} elements" true 0 r shape.members
  endOfList
  return r

def record (shape : Shape σ) (r : σ) : Reader σ :=
  value shape.name fun c =>
    if c = '\x7b' then some (object shape r)
    else if c = '[' then some (list shape r)
    else none

/-- Reads a whole text with nothing behind the value. -/
def whole {α : Type} (read : Reader α) (text : Bytes) : Except Fault α := do
  let (a, left) ← read text
  match ← peekMark left with
  | (none, _) => return a
  | (some _, left) => .error ⟨.trailing, left.length - 1⟩

end Reader

end Playout.Json
