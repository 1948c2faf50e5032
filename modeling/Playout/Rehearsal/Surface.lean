import Playout.Control.Order
import Playout.Control.Reply
import Playout.Control.Route
import Playout.Rehearsal.Run

/-!
# The control surface and the media server

A session that is opened over the control surface has its room behind a media server. Whoever asks over a
network waits for the reply, so the playbacks run meanwhile; without a network nobody is reached, and nobody
waits.
-/

namespace Playout.Rehearsal

/-- What comes of a request to the control surface. -/
inductive Answered where
  | reply (r : Control.Reply)
  /-- Nobody is reached. -/
  | unreached
  /-- The reply does not come, or does not end. -/
  | pending
deriving DecidableEq, Repr

namespace World

open Control

/-! ## Requests -/

/-- The socket that the next room gets for its media server. -/
def nextSocket (w : World) (remote : Rtp.Endpoint) : Rtp.Socket := w.sockets w.socketsWanted remote.wildcard

/-- Opens a session as it was ordered, once its room has a socket. -/
def serveOpen (w : World) (body : Bytes) : Reply × World :=
  match OpenOrder.read body with
  | .error reason => (.unreadable reason, w)
  | .ok order =>
    let joined := (w.nextSocket order.remote).address
    let w := { w with socketsWanted := w.socketsWanted + 1 }
    match joined with
    | .error reason => (.notJoined reason, w)
    | .ok address =>
      match w.openSession order.sessionId (.remote order.remote []) with
      | (.error e, w) => (.failed e, w)
      | (.ok _, w) => (.opened order.sessionId address, w)

def serveClose (w : World) (id : String) : Reply × World :=
  match w.service.closeSession id with
  | (.error e, service) => (.failed e, { w with service })
  | (.ok (), service) => (.closed, { w with service })

def servePlay (w : World) (id : String) (body : Bytes) : Answered × World :=
  match PlayOrder.read body with
  | .error reason => (.reply (.unreadable reason), w)
  | .ok order =>
    let since := w.now
    match w.play id order.request with
    | (.error e, w) => (.reply (.refused e), w)
    | (.ok none, w) => (.pending, w)
    | (.ok (some ending), w) => (.reply (.played ((w.now - since) / 1000) ending), w)

def serveStop (w : World) (id : String) : Reply × World :=
  match w.service.stop id with
  | (.error e, service) => (.failed e, { w with service })
  | (.ok any, service) => (.stopped any, { w with service })

def servePush (w : World) (id track : String) (body : Bytes) : Answered × World :=
  match w.pushTo id track body with
  | (none, w) => (.pending, w)
  | (some (.error e), w) => (.reply (.failed e), w)
  | (some (.ok samples), w) => (.reply (.pushed samples), w)

/-- Hands out room audio. It is kept as a stream if that gets a name; otherwise it is waited for to the
end. -/
def serveAudio (w : World) (id : String) (stream : Option String) : Answered × World :=
  match w.service.takeRoomAudio id with
  | (.error e, service) => (.reply (.failed e), { w with service })
  | (.ok false, service) => (.reply (.audioTaken id), { w with service })
  | (.ok true, service) =>
    match stream with
    | none => (.pending, { w with service })
    | some name =>
      let session := (service.find id).toOption.getD 0
      (.reply .audio,
        { w with service, streams := (name, { session }) :: w.streams.filter (·.1 ≠ name) })

def serve (w : World) (method path : String) (body : Bytes) (stream : Option String) :
    Answered × World :=
  let replied (result : Reply × World) : Answered × World := (.reply result.1, result.2)
  match route method path with
  | none => replied (.noRoute method path, w)
  | some .health => replied (.health w.service.health, w)
  | some .openSession => replied (w.serveOpen body)
  | some (.closeSession id) => replied (w.serveClose id)
  | some (.play id) => w.servePlay id body
  | some (.stop id) => replied (w.serveStop id)
  | some (.push id track) => w.servePush id track body
  | some (.roomAudio id) => w.serveAudio id stream

def ask (w : World) (method path : String) (body : Bytes) (stream : Option String) :
    Answered × World :=
  match w.link with
  | .down => (.unreached, w)
  | .up =>
    let (answer, w) := w.run.serve method path body stream
    (answer, w.run)

/-! ## Streams of room audio -/

/-- Waits for the next bytes of a stream: nothing if they do not come. -/
def readStream (w : World) (name : String) (count : Nat) : Received × World :=
  let w := w.run
  match w.streams.lookup name with
  | none => (.missing, w)
  | some stream =>
    if stream.arrived.length < count then (.empty, w)
    else
      let rest := { stream with arrived := stream.arrived.drop count }
      (.payload (stream.arrived.take count),
        { w with streams := (name, rest) :: w.streams.filter (·.1 ≠ name) })

/-- Waits for the end of a stream: what was left of it, and whether it ended. -/
def endStream (w : World) (name : String) : Option (Bytes × Bool) × World :=
  let w := w.run
  match w.streams.lookup name with
  | none => (none, w)
  | some stream =>
    (some (stream.arrived, !w.isReachable stream.session),
      { w with streams := w.streams.filter (·.1 ≠ name) })

/-! ## The media server -/

/-- Packets that came in while they were waited for. -/
structure Awaited where
  packets : List Rtp.Packet
  /-- As many came as were waited for. -/
  complete : Bool
deriving DecidableEq, Repr

/-- Waits for packets at the media server, until one does not come. A rehearsal with too many such waits is
given up. -/
def takeSent (w : World) (count : Nat) : Option Awaited × World :=
  let w := if w.sent.length < count then w.run else w
  let awaited : Awaited := ⟨w.sent.take count, count ≤ w.sent.length⟩
  let w := { w with sent := w.sent.drop count }
  if awaited.complete then (some awaited, w)
  else
    let w := { w with vainWaits := w.vainWaits + 1 }
    (if maxVainWaits < w.vainWaits then none else some awaited, w)

/-- The number of the session opened last under an id whose room is behind a media server. -/
def remoteNumber (w : World) (id : String) : Option Nat :=
  (List.range w.service.sessions.length).reverse.find? fun n =>
    (w.service.sessions[n]?.map (·.id)) = some id &&
      (match w.rooms[n]? with
        | some (.remote ..) => true
        | _ => false)

/-- A datagram comes in for the room of a session. -/
def receiveDatagram (w : World) (n : Nat) (datagram : Bytes) : World :=
  match w.service.sessions[n]? with
  | none => w
  | some s =>
    if w.isLeft n then w
    else
      let (audio, counters) := Rtp.receive s.audio w.service.counters datagram
      { w with service := { w.service.update n fun s => { s with audio } with counters } }

/-- The media server sends datagrams to the room of a session: the queue of the session behind them. -/
def sendDatagrams (w : World) (id : String) (datagrams : List Bytes) : Option RoomAudio × World :=
  match w.remoteNumber id with
  | none => (none, w)
  | some n =>
    let w := datagrams.foldl (fun w d => (w.receiveDatagram n d).run) w
    ((w.service.sessions[n]?).map (·.audio), w)

end World

end Playout.Rehearsal
