import Playout.Error
import Playout.Pcm.Sample

/-!
# Rooms and their tracks

A room is where audio is delivered. It creates a track each time it is asked to publish one, and hands out a
handle for it. Here a room is what it has seen: the tracks it created, in order, each with the frames it
accepted and whether it was closed, and how often the room was left. Whether a room accepts what it is asked
is up to the room; it never accepts a frame for a closed track.
-/

namespace Playout

/-- Audio that is delivered in one piece. -/
abbrev Frame := List Sample

/-- The place of a track among those its room created. -/
abbrev Handle := Nat

structure Room.Track where
  name : String
  closed : Bool := false
  frames : List Frame := []
deriving DecidableEq, Repr

/-- A room and what it has seen. -/
structure Room where
  tracks : List Room.Track := []
  /-- How often the room was left. -/
  disconnects : Nat := 0
deriving DecidableEq, Repr

namespace Room

def create (r : Room) (name : String) : Handle × Room :=
  (r.tracks.length, { r with tracks := r.tracks ++ [{ name }] })

def update (r : Room) (h : Handle) (f : Track → Track) : Room :=
  { r with tracks := r.tracks.modify h f }

def closeTrack (r : Room) (h : Handle) : Room := r.update h ({ · with closed := true })

def record (r : Room) (h : Handle) (frame : Frame) : Room :=
  r.update h fun t => { t with frames := t.frames ++ [frame] }

def disconnect (r : Room) : Room := { r with disconnects := r.disconnects + 1 }

def nameOf (r : Room) (h : Handle) : String := (r.tracks[h]?.map (·.name)).getD ""

/-- A track takes no more frames; so does one that does not exist. -/
def isClosed (r : Room) (h : Handle) : Bool := (r.tracks[h]?.map (·.closed)).getD true

def framesOf (r : Room) (h : Handle) : List Frame := (r.tracks[h]?.map (·.frames)).getD []

end Room

end Playout
