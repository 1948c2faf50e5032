import Playout.Url.Percent

/-!
# Paths

A path is cut into segments at its slashes. A segment of one dot stands for nothing and one of two dots takes
back the segment in front of it; a dot may be written as `%2e`. The path of an address never has one of
these.
-/

namespace Playout.Url

/-- The text of one segment, encoded. -/
abbrev Segment := List Char

def isSlash (c : Char) : Bool := c = '/' || c = '\\'

def splitSlashes (cs : List Char) : List Segment :=
  cs.foldr (fun c parts =>
    if isSlash c then [] :: parts
    else
      match parts with
      | part :: rest => (c :: part) :: rest
      | [] => [[c]]) [[]]

/-- How many dots a segment consists of, if of dots alone; a dot may be encoded. -/
def dots : Segment → Option Nat
  | [] => some 0
  | '.' :: rest => (dots rest).map (· + 1)
  | '%' :: '2' :: e :: rest => if e = 'e' ∨ e = 'E' then (dots rest).map (· + 1) else none
  | _ => none

/-- A letter and a colon or a bar. Such a segment is not taken back. -/
def isDriveLetter : Segment → Bool
  | [letter, mark] => letter.isAlpha && (mark = ':' || mark = '|')
  | _ => false

/-- Takes back the last segment; the last one comes first. -/
def takeBack : List Segment → List Segment
  | [] => []
  | last :: front => if isDriveLetter last then last :: front else front

/-- Resolves the dots of a path. `front` are the segments already there, the last one first. -/
def resolve (front : List Segment) : List Segment → List Segment
  | [] => front.reverse
  | [last] =>
    match dots last with
    | some 1 => ([] :: front).reverse
    | some 2 => ([] :: takeBack front).reverse
    | _ => (last :: front).reverse
  | segment :: rest =>
    match dots segment with
    | some 1 => resolve front rest
    | some 2 => resolve (takeBack front) rest
    | _ => resolve (segment :: front) rest

/-- The path that a text behind the authority stands for, without its first slash. -/
def pathSegments (cs : List Char) : List Segment :=
  resolve [] ((splitSlashes (match cs with
    | c :: rest => if isSlash c then rest else c :: rest
    | [] => [])).map (percentEncode inPathSet))

end Playout.Url
