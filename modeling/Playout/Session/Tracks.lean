import Playout.Session.Basic
import Playout.Session.Cue
import Playout.Track.Name

/-!
# Published tracks

A track is published when it is first used. Publishing takes time, and the session may change meanwhile, so
using a track has three parts: looking it up, having the room create it, and enlisting what the room created
to the map. A track that is no longer wanted when it arrives, because the session was closed or another one
of its name was enlisted before it, is closed at once.
-/

namespace Playout

namespace Session

/-- What the map says about a name. -/
inductive Lookup where
  | found (h : Handle)
  /-- There is no such track, and the session is closed. -/
  | refused
  /-- There is no such track yet. -/
  | missing
deriving DecidableEq, Repr

def lookup (s : Session) (name : String) : Lookup :=
  match s.tracks.lookup (Track.normalize name) with
  | some h => .found h
  | none => if s.closed then .refused else .missing

def publish (s : Session) (name : String) : Handle × Session :=
  let (h, room) := s.room.create (Track.normalize name)
  (h, { s with room })

/-- Enlists a track that the room created for a name: the track to use for it. -/
def enlist (s : Session) (name : String) (h : Handle) : Except DeliveryError Handle × Session :=
  if s.closed then (.error .roomClosed, s.closeHandle h)
  else
    match s.tracks.lookup (Track.normalize name) with
    | some first => (.ok first, s.closeHandle h)
    | none => (.ok h, { s with tracks := (Track.normalize name, h) :: s.tracks })

def unlist (s : Session) (name : String) : Option Handle × Session :=
  (s.tracks.lookup (Track.normalize name),
    { s with tracks := s.tracks.filter (·.1 ≠ Track.normalize name) })

def closeTrack (s : Session) (name : String) : Session :=
  match s.unlist name with
  | (some h, s) => s.closeHandle h
  | (none, s) => s

/-- The names of the published tracks, in order. -/
def trackNames (s : Session) : List String :=
  (s.tracks.map Prod.fst).mergeSort fun a b => !decide (b < a)

end Session

/-- Where a request for a track stands. -/
inductive Obtain where
  | asking
  /-- The room was asked; it may have let the asker wait. -/
  | publishing (suspended : Bool)
  /-- The room created this track. -/
  | enlisting (h : Handle)
deriving DecidableEq, Repr

namespace Obtain

/-- The next step of a request for a track: where it stands then, or its result. A cue that does not fit
leads nowhere. -/
def step (s : Session) (name : String) (o : Obtain) (cue : Cue) :
    Option ((Obtain ⊕ Except DeliveryError Handle) × Session) :=
  match o, cue with
  | .asking, .go =>
    match s.lookup name with
    | .found h => some (.inr (.ok h), s)
    | .refused => some (.inr (.error .roomClosed), s)
    | .missing => some (.inl (.publishing false), s)
  | .publishing _, .suspended => some (.inl (.publishing true), s)
  | .publishing _, .published (.error cause) => some (.inr (.error cause), s)
  | .publishing _, .published (.ok ()) =>
    let (h, s) := s.publish name
    some (.inl (.enlisting h), s)
  | .enlisting h, .go =>
    let (result, s) := s.enlist name h
    some (.inr result, s)
  | _, _ => none

end Obtain

end Playout
