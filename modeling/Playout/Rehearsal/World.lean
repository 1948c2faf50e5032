import Playout.Link
import Playout.Playback.Feed
import Playout.Rehearsal.Origin
import Playout.Rehearsal.Script
import Playout.Service.Basic

/-!
# The world of a rehearsal

A service together with everything around it: the room of each session, the origin of the sources, a media
server, the clock, what the decoders have still to report, and the results that somebody waits for.
-/

namespace Playout.Rehearsal

/-- Room audio on its way to somebody who asked the control surface for it. -/
structure AudioStream where
  /-- The number of the session. -/
  session : Nat
  /-- What has arrived and was not looked at yet. -/
  arrived : Bytes := []
deriving DecidableEq, Repr

/-- The sockets that a system has for rooms: one port after another. -/
def socketsInTurn (n : Nat) : Rtp.Endpoint → Rtp.Socket
  | .ipv4 .. => .bound s!"0.0.0.0:{40000 + n}"
  | .ipv6 .. => .bound s!"[::]:{40000 + n}"

/-- A service and what is around it. -/
structure World where
  service : Service
  link : Link
  origin : Origin := {}
  /-- The room of each session, by number. -/
  rooms : List Venue := []
  /-- What the system answers to rooms that want a socket, one after another. -/
  sockets : Nat → Rtp.Endpoint → Rtp.Socket := socketsInTurn
  /-- How many sockets were wanted. -/
  socketsWanted : Nat := 0
  /-- The media server. -/
  server : Rtp.Endpoint := .ipv4 0 0
  /-- The packets that the media server has not looked at yet. -/
  sent : List Rtp.Packet := []
  /-- What the decoder of each playback has still to report. -/
  feeds : List (Nat × List Event) := []
  /-- The playbacks whose results can be asked for, none where a request was refused. -/
  tickets : List (Option Nat) := []
  /-- The sessions whose receiving end was taken, by id. -/
  receivers : List (String × Nat) := []
  /-- The streams of room audio, by the names they were given. -/
  streams : List (String × AudioStream) := []
  /-- Microseconds since the start. -/
  now : Nat := 0
  /-- How often a packet was waited for that did not come. -/
  vainWaits : Nat := 0

namespace World

/-- A wait in vain takes a third of the time that there is for a rehearsal. -/
def maxVainWaits : Nat := 2

def update (w : World) (n : Nat) (f : Session → Session) : World :=
  { w with service := w.service.update n f }

def updateVenue (w : World) (n : Nat) (f : Venue → Venue) : World :=
  { w with rooms := w.rooms.modify n f }

/-- Changes the script of a session's room, if it follows one. -/
def updateScript (w : World) (n : Nat) (f : ScriptedRoom → ScriptedRoom) : World :=
  w.updateVenue n fun
    | .scripted room => .scripted (f room)
    | venue => venue

/-- The script of a session's room; a room that follows none has an empty one. -/
def script (w : World) (n : Nat) : ScriptedRoom :=
  match w.rooms[n]? with
  | some (.scripted room) => room
  | _ => {}

/-- The room of a session creates a track for a request. Behind a media server that is a stream of its own. -/
def created (w : World) (n number : Nat) : World :=
  w.updateVenue n fun
    | .scripted room => .scripted (room.created number)
    | .remote server streams =>
      let ssrc := (n * 0x10000 + streams.length).toUInt32
      .remote server (streams ++ [⟨ssrc, ⟨0, 0, true⟩⟩])

def openSession (w : World) (id : String) (room : Venue) :
    Except ServiceError Nat × World :=
  match w.service.openSession id with
  | (.error e, service) => (.error e, { w with service })
  | (.ok n, service) => (.ok n, { w with service, rooms := w.rooms ++ [room] })

def start (w : World) (id : String) (request : Request) : Except ServiceError Nat × World :=
  match w.service.start id request with
  | (.error e, service) => (.error e, { w with service })
  | (.ok k, service) => (.ok k, { w with service })

def keepTicket (w : World) (ticket : Option Nat) : World :=
  { w with tickets := w.tickets ++ [ticket] }

end World

end Playout.Rehearsal
