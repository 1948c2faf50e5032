import Playout.Rtp.Endpoint
import Playout.Rtp.Room
import Playout.Session.Tracks

/-!
# A session on a room over RTP

A session that has joined a room over RTP shares the room's tracks: closing the session leaves the room. As
long as the room is open, datagrams that reach the socket are handled in order.
-/

namespace Playout.Rtp

/-- A session, the streams of its room's tracks, and what is around them. -/
structure Joined where
  session : Session
  streams : List Stream := []
  counters : Counters := .new
  /-- Where the media server is. -/
  remote : Endpoint
  link : Link
deriving DecidableEq, Repr

namespace Joined

def room (j : Joined) : Room := ⟨j.session.room, j.streams⟩

def withRoom (j : Joined) (r : Room) : Joined :=
  { j with session := { j.session with room := r.tracks }, streams := r.streams }

/-- Publishes a track. Its stream starts at a clock of the room's choice. -/
def publish (j : Joined) (name : String) : Except DeliveryError String × Joined :=
  match j.room.publish name ⟨j.streams.length.toUInt32, ⟨0, 0, true⟩⟩ with
  | (.ok h, r) => (.ok (r.tracks.nameOf h), j.withRoom r)
  | (.error cause, r) => (.error cause, j.withRoom r)

def write (j : Joined) (h : Handle) (frame : Frame) : Except DeliveryError Packet × Joined :=
  let (result, r) := j.room.write j.link h frame
  (result, j.withRoom r)

def closeTrack (j : Joined) (h : Handle) : Joined := j.withRoom (j.room.closeTrack h)

def disconnect (j : Joined) : Joined := j.withRoom j.room.disconnect

def closeSession (j : Joined) : Joined := { j with session := j.session.close }

/-- Handles datagrams sent to the socket. Without a network, or when the room was left, none is. -/
def inbound (j : Joined) (datagrams : List Bytes) : Joined :=
  if j.link = .down ∨ j.room.isClosed then j
  else
    let (audio, counters) := datagrams.foldl (fun (q, m) d => receive q m d)
      (j.session.audio, j.counters)
    { j with session := { j.session with audio }, counters }

end Joined

end Playout.Rtp
