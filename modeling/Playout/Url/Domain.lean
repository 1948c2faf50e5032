import Playout.Url.Address
import Playout.Url.Label

/-!
# Domain names

A name is compared and written in one form: its labels canonical and coded in ASCII letters.
-/

namespace Playout.Url

def readDomain? (name : List Char) : Option (List (List Char)) := do
  let labels ← (splitDots (← canonical? name)).mapM readLabel?
  guard (directionsFit labels)
  return labels

def writeDomain (bytes : Bytes) : Except ParseError (List Char) :=
  match String.fromUTF8? (ByteArray.mk bytes.toArray) with
  | none => .error .domain
  | some text =>
    match readDomain? text.toList with
    | none => .error .domain
    | some labels => .ok (['.'].intercalate (labels.map writeLabel))

end Playout.Url
