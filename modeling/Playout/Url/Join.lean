import Playout.Url.Basic

/-!
# References from one address to another

A reference that names no scheme is read against the address it stands in: it may start at the scheme, at
the host's root, at the query or at the fragment, or take the place of the last segment of the path.
-/

namespace Playout.Url

/-- The path, query and fragment of an address replaced by what a text says. -/
def withTail (u : Url) (front : List Segment) (cs : List Char) : Url :=
  let beforeFragment := cs.takeWhile (· ≠ '#')
  let path := splitSlashes (beforeFragment.takeWhile (· ≠ '?'))
  { u with
    segments := resolve front.reverse (path.map (percentEncode inPathSet))
    query := (behind? '?' beforeFragment).map
      fun cs => String.ofList (percentEncode inSpecialQuerySet cs)
    fragment := (behind? '#' cs).map fun cs => String.ofList (percentEncode inFragmentSet cs) }

/-- The address that a reference without a scheme means. -/
def joinRelative (u : Url) : List Char → Option Url
  | [] => some { u with fragment := none }
  | '#' :: cs => some { u with fragment := some (String.ofList (percentEncode inFragmentSet cs)) }
  | '?' :: cs =>
    let moved := u.withTail [] ('?' :: cs)
    some { u with query := moved.query, fragment := moved.fragment }
  | a :: b :: cs =>
    if isSlash a ∧ isSlash b then
      match parse (u.scheme ++ "://" ++ String.ofList cs) with
      | .ok (.resource url) => some url
      | _ => none
    else if isSlash a then some (u.withTail [] (b :: cs))
    else some (u.withTail u.segments.dropLast (a :: b :: cs))
  | [a] => some (if isSlash a then u.withTail [] [] else u.withTail u.segments.dropLast [a])

/-- The address that a reference means. One that names the scheme of the address, but no host, is read as if
it named no scheme. -/
def join (u : Url) (reference : String) : Option Url :=
  match splitScheme (significant reference) with
  | none => u.joinRelative (significant reference)
  | some (scheme, rest) =>
    if scheme = u.scheme ∧ (rest.takeWhile isSlash).length < 2 then u.joinRelative rest
    else
      match parse reference with
      | .ok (.resource url) => some url
      | _ => none

end Playout.Url
