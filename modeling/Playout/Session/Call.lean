import Playout.Session.Tracks

/-!
# Calls to a session, step by step

Using a track, closing a track and closing the session take several steps each, and others may take steps of theirs
between any two of them, those among others that a room makes while it is called. `Session.Call.step` is one step: one
critical section of the session, one look at its flag, or one thing asked of the room.

The flag of a closed session is set without entering a critical section. Where it is set while a request for a track
is in the section in which it has found the flag unset, it counts as set behind that section: the tracks are taken off
the map in a section of their own, which comes later.
-/

namespace Playout.Session

/-- Where a call to a session stands. -/
inductive Call where
  /-- A request for a track looks at the map. -/
  | looking (name : String)
  /-- Its track was not on the map; it looks whether the session is closed. -/
  | unseen (name : String)
  | obtaining (name : String) (o : Obtain)
  | tracked (name : String) (result : Except DeliveryError Handle)
  /-- A track is taken off the map, to be closed. -/
  | unlisting (name : String)
  | silencing (h : Handle)
  /-- The session is closed: it is marked, its tokens are cancelled, the map is emptied, the tracks that were on it
  are closed, and the room is left. -/
  | shutting
  | revoking
  | draining
  | muting (handles : List Handle)
  | left
  /-- The call has returned without anything to tell, or its caller has gone away. -/
  | over
deriving Repr

namespace Call

/-- What lets a call go on. -/
inductive Prompt where
  | cue (cue : Cue)
  /-- Of the tracks that were taken off the map, this one is closed next. -/
  | mute (h : Handle)
  /-- The caller does not wait any longer. -/
  | drop
deriving Repr

/-- Where a request for a track stands behind a step of it. -/
def obtained (name : String) : Obtain ⊕ Except DeliveryError Handle → Call
  | .inl o => .obtaining name o
  | .inr result => .tracked name result

/-- The next step of a call. A prompt that does not fit leads nowhere. -/
def step (s : Session) (c : Call) (p : Prompt) : Option (Call × Session) :=
  match c, p with
  | .looking name, .cue .go =>
    match s.tracks.lookup (Track.normalize name) with
    | some h => some (.tracked name (.ok h), s)
    | none => some (.unseen name, s)
  | .unseen name, .cue .go =>
    if s.closed then some (.tracked name (.error .roomClosed), s)
    else some (.obtaining name (.publishing false), s)
  | .obtaining name o, .cue cue => (o.step s name cue).map fun (r, s) => (obtained name r, s)
  | .obtaining _ (.publishing _), .drop => some (.over, s)
  | .unlisting name, .cue .go =>
    match s.unlist name with
    | (some h, s) => some (.silencing h, s)
    | (none, s) => some (.over, s)
  | .silencing h, .cue .go => some (.over, s.closeHandle h)
  | .shutting, .cue .go => if s.closed then some (.over, s) else some (.revoking, s.shut)
  | .revoking, .cue .go => some (.draining, s.revoke)
  | .draining, .cue .go =>
    let (handles, s) := s.drain
    some (.muting handles, s)
  | .muting handles, .mute h => if h ∈ handles then some (.muting (handles.erase h), s.closeHandle h) else none
  | .muting [], .cue .go => some (.left, s.depart)
  | _, _ => none

def isDone : Call → Bool
  | .tracked .. | .left | .over => true
  | _ => false

end Call

end Playout.Session
