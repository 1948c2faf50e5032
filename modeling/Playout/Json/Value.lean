import Playout.Json.Number
import Playout.Text.Shown

/-!
# Values in JSON

A value is read as what is wanted where it stands, or passed over where nothing is wanted of it. A value of
another type is named in the message.
-/

namespace Playout.Json

/-! ## Texts in messages -/

/-- A character of a text in a message. -/
def quotedChar (c : Char) : String :=
  if c = '"' then "\\\""
  else if c = '\\' then "\\\\"
  else if c = '\n' then "\\n"
  else if c = '\r' then "\\r"
  else if c = '\t' then "\\t"
  else if c.toNat = 0 then "\\0"
  else if !Text.shows c then "\\u\x7b" ++ String.ofList (Nat.toDigits 16 c.toNat) ++ "\x7d"
  else c.toString

def quoted (text : String) : String := "\"" ++ String.join (text.toList.map quotedChar) ++ "\""

namespace Reader

/-- Reads a value of the wrong type as far as a message names it. Of lists and objects nothing is read. -/
def unwanted : Reader String := do
  match ← peek with
  | some 'n' => let _ ← take; word ['u', 'l', 'l']; return "null"
  | some 't' => let _ ← take; word ['r', 'u', 'e']; return "boolean `true`"
  | some 'f' => let _ ← take; word ['a', 'l', 's', 'e']; return "boolean `false`"
  | some '-' => let _ ← take; return (← number false).described
  | some '"' => let _ ← take; return s!"string {quoted (← restOfText)}"
  | some '[' => return "sequence"
  | some '\x7b' => return "map"
  | some c => if c.isDigit then return (← number true).described else failNext .noValue
  | none => failNext .noValue

/-- Fails at a value of the wrong type. -/
def mismatch {α : Type} (wanted : String) : Reader α := do
  fail (.mismatch (← unwanted) wanted)

def value {α : Type} (wanted : String) (read : Char → Option (Reader α)) : Reader α := do
  match ← peekMark with
  | none => failNext .endInValue
  | some c =>
    match read c with
    | some reader => reader
    | none => mismatch wanted

def text (wanted : String) : Reader String :=
  value wanted fun c => if c = '"' then some (do let _ ← take; restOfText) else none

def anyNumber (wanted : String) : Reader Number :=
  value wanted fun c =>
    if c = '-' then some (do let _ ← take; number false)
    else if c.isDigit then some (number true)
    else none

/-- Reads a value, or nothing where it is null. -/
def optional {α : Type} (read : Reader α) : Reader (Option α) := do
  if (← peekMark) = some 'n' then
    let _ ← take
    word ['u', 'l', 'l']
    return none
  else return some (← read)

/-! ## Passing over a value -/

/-- Passes over an exponent, from its mark on. -/
def passExponent : Reader Unit := do
  let _ ← take
  let sign ← peek
  if sign = some '+' ∨ sign = some '-' then
    let _ ← take
  if ((← take).bind digit?).isNone then fail .number
  let _ ← digits

def passFraction : Reader Unit := do
  let _ ← take
  if (← digits).isEmpty then failNext .number
  match ← peek with
  | some 'e' | some 'E' => passExponent
  | _ => return

def passNumber : Reader Unit := do
  match (← take).bind digit? with
  | none => fail .number
  | some first =>
    if first = 0 then
      if ((← peek).bind digit?).isSome then failNext .number
    else
      let _ ← digits
    match ← peek with
    | some '.' => passFraction
    | some 'e' | some 'E' => passExponent
    | _ => return

inductive Frame where
  | list
  | object
deriving DecidableEq, Repr

/-- Fails where neither another value nor the end of a frame follows. -/
def Frame.unclosed (frame : Frame) : Cause :=
  match frame with
  | .list => .noListMark
  | .object => .noObjectMark

/-- Fails where the text ends in a frame. -/
def Frame.endIn (frame : Frame) : Cause :=
  match frame with
  | .list => .endInList
  | .object => .endInObject

def Frame.closing (frame : Frame) : Char :=
  match frame with
  | .list => ']'
  | .object => '\x7d'

def passName : Reader Unit := do
  match ← peekMark with
  | some '"' => let _ ← take; passText
  | some _ => failNext .noKey
  | none => failNext .endInObject
  match ← peekMark with
  | some ':' => let _ ← take
  | some _ => failNext .noColon
  | none => failNext .endInObject

/-- Goes on behind a value, or behind the start of a frame: the frames that the next value stands in, none if
no value follows. -/
def proceed (behindValue : Bool) : List Frame → Reader (List Frame)
  | [] => return []
  | frame :: outer => do
    match ← peekMark with
    | none => failNext frame.endIn
    | some c =>
      if c = ',' ∧ behindValue then
        let _ ← take
        if frame = .object then passName
        return frame :: outer
      else if c = frame.closing then
        let _ ← take
        proceed true outer
      else if behindValue then failNext frame.unclosed
      else
        if frame = .object then passName
        return frame :: outer

/-- Passes over the start of a value: the frames around it, with its own where it is a list or an object. -/
def passStart (frames : List Frame) : Reader (List Frame) := do
  match ← peekMark with
  | none => failNext .endInValue
  | some 'n' => let _ ← take; word ['u', 'l', 'l']; proceed true frames
  | some 't' => let _ ← take; word ['r', 'u', 'e']; proceed true frames
  | some 'f' => let _ ← take; word ['a', 'l', 's', 'e']; proceed true frames
  | some '-' => let _ ← take; passNumber; proceed true frames
  | some '"' => let _ ← take; passText; proceed true frames
  | some '[' => let _ ← take; proceed false (.list :: frames)
  | some '\x7b' => let _ ← take; proceed false (.object :: frames)
  | some c => if c.isDigit then do passNumber; proceed true frames else failNext .noValue

def passValues (frames : List Frame) : (n : Nat) → Reader Unit
  | 0 => failNext .endInValue
  | n + 1 => do
    match ← passStart frames with
    | [] => return
    | frames => passValues frames n

/-- Passes over a value. Each value in it takes a byte or more. -/
def pass : Reader Unit := fun bs => passValues [] (bs.length + 1) bs

end Reader

end Playout.Json
