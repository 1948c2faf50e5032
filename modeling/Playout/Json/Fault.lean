import Playout.Pcm.Sample

/-!
# Why a document is not the one wanted

A document is read from front to back, and the first thing that is wrong ends the reading: a text that is not
JSON, or a value that does not fit where it stands. The place is told by line and column, both counted in
bytes read up to it.
-/

namespace Playout.Json

inductive Cause where
  | endInList
  | endInObject
  | endInText
  | endInValue
  | noColon
  | noListMark
  | noObjectMark
  | noWord
  | noValue
  | escape
  | number
  | outOfRange
  | codePoint
  | controlCharacter
  | noKey
  | surrogate
  | trailingComma
  | trailing
  | halfSurrogate
  /-- The value has another type than the wanted one. -/
  | mismatch (found wanted : String)
  /-- The value is outside the wanted range. -/
  | unfit (found wanted : String)
  /-- The list has fewer values than wanted. -/
  | tooShort (length : Nat) (wanted : String)
  | missing (member : String)
  | duplicate (member : String)
  /-- The text is not the address of a socket. -/
  | endpoint
deriving DecidableEq, Repr

def Cause.message : Cause → String
  | .endInList => "EOF while parsing a list"
  | .endInObject => "EOF while parsing an object"
  | .endInText => "EOF while parsing a string"
  | .endInValue => "EOF while parsing a value"
  | .noColon => "expected `:`"
  | .noListMark => "expected `,` or `]`"
  | .noObjectMark => "expected `,` or `\x7d`"
  | .noWord => "expected ident"
  | .noValue => "expected value"
  | .escape => "invalid escape"
  | .number => "invalid number"
  | .outOfRange => "number out of range"
  | .codePoint => "invalid unicode code point"
  | .controlCharacter => "control character (\\u0000-\\u001F) found while parsing a string"
  | .noKey => "key must be a string"
  | .surrogate => "lone leading surrogate in hex escape"
  | .trailingComma => "trailing comma"
  | .trailing => "trailing characters"
  | .halfSurrogate => "unexpected end of hex escape"
  | .mismatch found wanted => s!"invalid type: {found}, expected {wanted}"
  | .unfit found wanted => s!"invalid value: {found}, expected {wanted}"
  | .tooShort length wanted => s!"invalid length {length}, expected {wanted}"
  | .missing member => s!"missing field `{member}`"
  | .duplicate member => s!"duplicate field `{member}`"
  | .endpoint => "invalid socket address syntax"

structure Fault where
  cause : Cause
  /-- How many bytes lie behind the place. -/
  left : Nat
deriving DecidableEq, Repr

/-- The line that reading some bytes ends in, from one. -/
def lineOf (bytes : Bytes) : Nat := bytes.count 10 + 1

/-- How many bytes of its last line some bytes have. -/
def columnOf (bytes : Bytes) : Nat := (bytes.reverse.takeWhile (· ≠ 10)).length

/-- What is wrong with a text, in words, and where. -/
def Fault.message (f : Fault) (text : Bytes) : String :=
  let read := text.take (text.length - f.left)
  s!"{f.cause.message} at line {lineOf read} column {columnOf read}"

end Playout.Json
