/-!
# Routes

A request to the control surface names what it wants by its method and the parts of its path. Slashes around
the path do not count, and the parts are taken as they stand. So no path names an id that holds a slash, and
an empty id only has a name between two other parts.
-/

namespace Playout.Control

inductive Target where
  | health
  | openSession
  | closeSession (id : String)
  | play (id : String)
  | stop (id : String)
  | push (id track : String)
  | roomAudio (id : String)
deriving DecidableEq, Repr

/-- The parts of a text between slashes, at least one. -/
def splitSlashes (cs : List Char) : List (List Char) :=
  cs.foldr (fun c parts =>
    if c = '/' then [] :: parts
    else
      match parts with
      | part :: rest => (c :: part) :: rest
      | [] => [[c]]) [[]]

/-- The text without the slashes around it. -/
def trimSlashes (cs : List Char) : List Char :=
  ((cs.dropWhile (· = '/')).reverse.dropWhile (· = '/')).reverse

def segments (path : String) : List String :=
  (splitSlashes (trimSlashes path.toList)).map String.ofList

/-- What a request wants, unless there is no such route. -/
def route (method path : String) : Option Target :=
  match method, segments path with
  | "GET", ["health"] => some .health
  | "POST", ["sessions"] => some .openSession
  | "DELETE", ["sessions", id] => some (.closeSession id)
  | "POST", ["sessions", id, "play"] => some (.play id)
  | "POST", ["sessions", id, "stop"] => some (.stop id)
  | "POST", ["sessions", id, "tracks", track, "audio"] => some (.push id track)
  | "GET", ["sessions", id, "audio"] => some (.roomAudio id)
  | _, _ => none

end Playout.Control
