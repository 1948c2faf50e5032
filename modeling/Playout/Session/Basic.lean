import Playout.Config
import Playout.Room.Basic
import Playout.Session.Lease
import Playout.Session.RoomAudio

/-!
# Sessions

A session is one joined room: its published tracks by name, the handle of the playback that owns it, the
lease for writing to tracks, and the queue of room audio.

A playback is begun in a slot. The slot has a number, larger than those before it, and a token that tells the
playback to end. The handle names the slot that was begun last, until that slot is dropped or the playback is
stopped; beginning another playback cancels the one that the handle names. Closing the session revokes every
token, those of slots begun later as well.
-/

namespace Playout

/-- The right of one playback to the handle, and its token. -/
structure Slot where
  id : Nat
  /-- Not dropped yet. -/
  held : Bool := true
  /-- Its own token was cancelled; a revoked session cancels it as well. -/
  cancelled : Bool := false
deriving DecidableEq, Repr

/-- One joined room. -/
structure Session where
  id : String
  /-- Samples in a delivered frame, never none. -/
  frameSamples : Nat
  closed : Bool := false
  /-- The token above those of all slots is cancelled. -/
  revoked : Bool := false
  /-- The slot that the installed handle names. -/
  active : Option Nat := none
  /-- Every slot ever begun, in order. -/
  slots : List Slot := []
  /-- The published tracks by name. -/
  tracks : List (String × Handle) := []
  lease : Lease := {}
  audio : RoomAudio
  room : Room := {}
deriving DecidableEq, Repr

namespace Session

def new (config : Config) (id : String) : Session :=
  { id, frameSamples := config.frameSamples, audio := .new config.roomAudioCapacity }

def isPlaying (s : Session) : Bool := s.active.isSome

def isCancelled (s : Session) (id : Nat) : Bool :=
  s.revoked || s.slots.any fun slot => slot.id = id && slot.cancelled

def isHeld (s : Session) (id : Nat) : Bool := s.slots.any fun slot => slot.id = id && slot.held

def updateSlot (s : Session) (id : Nat) (f : Slot → Slot) : Session :=
  { s with slots := s.slots.map fun slot => if slot.id = id then f slot else slot }

/-! ## Playbacks -/

def cancel (s : Session) (id : Nat) : Session := s.updateSlot id ({ · with cancelled := true })

/-- Cancels the playback that the handle names and takes the handle away. -/
def preempt (s : Session) : Session :=
  match s.active with
  | none => s
  | some id => { s.cancel id with active := none }

def nextId (s : Session) : Nat := s.slots.length + 1

/-- Begins a playback: installs a handle for a new slot and cancels the playback it replaces. -/
def begin (s : Session) : Nat × Session :=
  let s := s.preempt
  (s.nextId, { s with active := some s.nextId, slots := s.slots ++ [{ id := s.nextId }] })

/-- Stops the playback in flight. Tells whether there was one. -/
def stop (s : Session) : Bool × Session := (s.isPlaying, s.preempt)

/-- Drops a slot. A handle that names it goes with it. -/
def finish (s : Session) (id : Nat) : Session :=
  let s := s.updateSlot id ({ · with held := false })
  if s.active = some id then { s with active := none } else s

/-! ## Closing -/

def shut (s : Session) : Session := { s with closed := true }

/-- Cancels every token, also of slots to come. -/
def revoke (s : Session) : Session := { s with revoked := true }

/-- Takes the handle away and the tracks off the map. -/
def drain (s : Session) : List Handle × Session :=
  (s.tracks.map Prod.snd, { s with active := none, tracks := [] })

def closeHandle (s : Session) (h : Handle) : Session := { s with room := s.room.closeTrack h }

/-- Leaves the room and hands out no more receivers. -/
def depart (s : Session) : Session :=
  { s with room := s.room.disconnect, audio := s.audio.withdraw }

/-- Cancels playback, closes every track and leaves the room, the first time. -/
def close (s : Session) : Session :=
  if s.closed then s
  else
    let (handles, s) := s.shut.revoke.drain
    (handles.foldl closeHandle s).depart

end Session

end Playout
