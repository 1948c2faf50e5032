import Playout.Playback.Request
import Playout.Rtp.Endpoint
import Playout.Rtp.Room

/-!
# Scripted rooms

A rehearsal plays a service against rooms that follow a script. The script says, for each request to publish
a track, whether it succeeds and what happens meanwhile, and for each track that is created which writes fail
and what happens during others. Entries are numbered by the requests to publish, failed ones included; where
the script has no entry, everything succeeds. A session may also have a real room, behind a media server.
-/

namespace Playout.Rehearsal

/-- Something that happens inside a call to the room. -/
inductive Action where
  /-- The playback of the session is stopped. -/
  | stop
  /-- The session is closed. -/
  | close
  /-- The service is shut down. -/
  | shutdown
  | closeTrack (name : String)
  /-- A track of the session is used. -/
  | track (name : String)
  /-- A playback is started on the session. -/
  | play (request : Request)
deriving DecidableEq, Repr

/-- What the room does about a request for a track. -/
inductive Publishing where
  | succeed
  | fail (cause : DeliveryError)
  /-- Something happens, then it succeeds. -/
  | act (action : Action)
deriving DecidableEq, Repr

inductive Interlude where
  /-- It waits until it is released, and the frame is accepted then. -/
  | block
  /-- The frame is accepted, and then something happens. -/
  | act (action : Action)
deriving DecidableEq, Repr

structure TrackScript where
  /-- Writes fail while the track holds this many frames. -/
  failAt : Option (Nat × String) := none
  /-- What happens while the frame of this number is written. -/
  interludes : List (Nat × Interlude) := []
deriving DecidableEq, Repr

/-- A room that follows a script. -/
structure ScriptedRoom where
  /-- What is left of the script for requests. -/
  publish : List Publishing := []
  /-- The scripts of the tracks, by the number of the request. -/
  tracks : List TrackScript := []
  /-- Requests so far. -/
  requests : Nat := 0
  /-- The number of the request that each track was created for. -/
  origins : List Nat := []
  /-- Blocked writes that may go on. -/
  releases : Nat := 0
deriving DecidableEq, Repr

namespace ScriptedRoom

def scriptOf (r : ScriptedRoom) (h : Handle) : TrackScript :=
  ((r.origins[h]?).bind (r.tracks[·]?)).getD {}

/-- Takes a request: its number and what the script says about it. -/
def request (r : ScriptedRoom) : (Nat × Publishing) × ScriptedRoom :=
  ((r.requests, r.publish.headD .succeed),
    { r with publish := r.publish.drop 1, requests := r.requests + 1 })

def created (r : ScriptedRoom) (number : Nat) : ScriptedRoom :=
  { r with origins := r.origins ++ [number] }

end ScriptedRoom

/-- The room of a session: one that follows a script, or one behind a media server. -/
inductive Venue where
  | scripted (room : ScriptedRoom)
  | remote (server : Rtp.Endpoint) (streams : List Rtp.Stream)
deriving DecidableEq, Repr

end Playout.Rehearsal
