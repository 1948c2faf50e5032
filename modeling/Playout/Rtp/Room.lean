import Playout.Link
import Playout.Room.Basic
import Playout.Rtp.Endpoint
import Playout.Rtp.Stream
import Playout.Session.RoomAudio

/-!
# Rooms reached over RTP

A room behind a media server is reached over one datagram socket, and nobody joins it who gets none. It is
open until it is left; it publishes any track, and each track sends its frames as the packets of its own
stream. A write is refused when the room was left or the track closed; otherwise the packet is built, and the
clock of the stream moves on, whether the packet leaves or not. Audio packets that come in are offered to the
queue of the session, and everything else that comes in is passed over.
-/

namespace Playout.Rtp

/-- What comes of the socket that a room wants. -/
inductive Socket where
  | bound (address : String)
  | unbound (reason : String)
  /-- It is bound, and does not know where. -/
  | nameless (reason : String)
deriving DecidableEq, Repr

/-- Where a room wants its socket: on all interfaces, at a port that the system picks. -/
def Endpoint.wildcard : Endpoint → Endpoint
  | .ipv4 .. => .ipv4 0 0
  | .ipv6 .. => .ipv6 (List.replicate 8 0) 0 0

/-- Where a room listens, or why nobody joins it. -/
def Socket.address : Socket → Except String String
  | .bound address => .ok address
  | .unbound reason => .error s!"failed to bind UDP socket: {reason}"
  | .nameless reason => .error s!"socket has no local address: {reason}"

/-- A room over RTP: its tracks and their streams. -/
structure Room where
  tracks : Playout.Room := {}
  streams : List Stream := []
deriving DecidableEq, Repr

def unreachable : DeliveryError := .io "Network is unreachable (os error 101)"

/-- Why a datagram that is too long does not leave. -/
def tooLong : DeliveryError := .io "Message too long (os error 90)"

/-- The most bytes of a datagram that can be sent, and the most whose length can be written down at all. -/
def longestSent : Nat := 65507
def longestDatagram : Nat := 65535

/-- What keeps a datagram of `size` bytes from leaving. Its length is looked at first, and again when there is
a way for it. -/
def sendError? (link : Link) (size : Nat) : Option DeliveryError :=
  if longestDatagram < size then some tooLong
  else
    match link with
    | .down => some unreachable
    | .up => if longestSent < size then some tooLong else none

/-- Bytes of a datagram that are read. -/
def datagramLimit : Nat := 2048

namespace Room

def isClosed (r : Room) : Bool := r.tracks.disconnects ≠ 0

def publish (r : Room) (name : String) (stream : Stream) : Except DeliveryError Handle × Room :=
  if r.isClosed then (.error .roomClosed, r)
  else
    let (h, tracks) := r.tracks.create name
    (.ok h, ⟨tracks, r.streams ++ [stream]⟩)

/-- Sends a frame as the next packet of its stream. -/
def write (r : Room) (link : Link) (h : Handle) (frame : Frame) :
    Except DeliveryError Packet × Room :=
  if r.isClosed then (.error .roomClosed, r)
  else if r.tracks.isClosed h then (.error (.trackClosed (r.tracks.nameOf h)), r)
  else
    match r.streams[h]? with
    | none => (.error .roomClosed, r)
    | some stream =>
      let (packet, clock) := stream.clock.next stream.ssrc frame
      let streams := r.streams.set h { stream with clock }
      match sendError? link packet.serialize.length with
      | none => (.ok packet, ⟨r.tracks.record h frame, streams⟩)
      | some cause => (.error cause, ⟨r.tracks, streams⟩)

def closeTrack (r : Room) (h : Handle) : Room := { r with tracks := r.tracks.closeTrack h }

/-- Is left; leaving it again changes nothing that shows. -/
def disconnect (r : Room) : Room := { r with tracks := r.tracks.disconnect }

end Room

/-- The audio that a datagram brings, low byte first, if it brings any. -/
def audioOf? (datagram : Bytes) : Option Bytes :=
  match parse (datagram.take datagramLimit) with
  | .ok packet =>
    if packet.payloadType = audioPayloadType then some (Pcm.swapPairs packet.payload) else none
  | .error _ => none

/-- A datagram comes in while the room is open. -/
def receive (q : RoomAudio) (m : Counters) (datagram : Bytes) : RoomAudio × Counters :=
  match audioOf? datagram with
  | none => (q, m)
  | some payload =>
    let (offered, q) := q.offer payload
    (q, m.countOffer offered)

end Playout.Rtp
