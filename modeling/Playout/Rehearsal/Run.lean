import Playout.Rehearsal.Room

/-!
# Running playbacks

All playbacks share one thread: each runs until it waits, then the next one has its turn, in the order in
which they were accepted. When all of them wait, the clock moves on to the first frame that is held back.
Somebody who waits for a result lets the playbacks run as far as they get; where the result is there already,
nobody waits, and none runs.
-/

namespace Playout.Rehearsal

namespace World

def cue (w : World) (k : Nat) (c : Cue) : Option World :=
  (w.service.cue k c).map fun service => { w with service }

/-- What is left of the reports of a playback's decoder. -/
def reports (w : World) (k : Nat) : List Event := (w.feeds.lookup k).getD []

def feed (w : World) (k : Nat) (events : List Event) : World :=
  { w with feeds := (k, events) :: w.feeds.filter (·.1 ≠ k) }

/-- The decoder of a playback starts on a body. -/
def decode (w : World) (k : Nat) (url : Url) (response : Response) : World :=
  match AudioFormat.detect response.head.contentType url.path with
  | none => w
  | some format =>
    w.feed k (Event.feed format (.ofArrivals response.body) w.service.config.readChunkBytes)

/-- The next step of a playback, unless it waits. -/
def advance (w : World) (k : Nat) : Option World :=
  match w.service.tasks[k]? with
  | none => none
  | some (n, t) =>
    let cancelled := (w.service.sessions[n]?.map (·.isCancelled t.slot)).getD true
    match t.stage, t.track with
    | .fetching, _ =>
      if cancelled then w.cue k .go
      else
        match w.origin.fetch w.link t.url with
        | .error reason => w.cue k (.answered (.error reason))
        | .ok response =>
          (w.cue k (.answered (.ok response.head))).map (·.decode k t.url response)
    | .listening, _ =>
      if cancelled then w.cue k .go
      else
        match w.reports k with
        | event :: rest => (w.cue k (.event event)).map (·.feed k rest)
        | [] => w.cue k .over
    | .obtaining (.publishing false), _ =>
      match w.askRoom n with
      | (.error cause, _, w) => w.cue k (.published (.error cause))
      | (.ok (), number, w) =>
        (w.cue k (.published (.ok ()))).map (·.created n number)
    | .pacing, _ => w.cue k (.time w.now)
    | .holding _, _ => w.cue k (.time w.now)
    | .writing suspended false, some h =>
      if suspended && cancelled then w.cue k .go
      else
        match w.judge n h (t.todo.headD []) with
        | (.refuse cause, w) => w.cue k (.written (.error cause))
        | (.wait, w) => if suspended then none else w.cue k .suspended
        | (.accept action, w) => (w.cue k .recorded).map (·.actAfter n action)
    | .writing _ true, _ => w.cue k (.written (.ok ()))
    | _, _ => w.cue k .go

/-- More steps than any rehearsal takes. -/
def patience : Nat := 0x10000000000

/-- Up to `steps` steps of a playback. Tells whether it took any. -/
def turn (w : World) (k : Nat) (moved : Bool) : (steps : Nat) → Bool × World
  | 0 => (moved, w)
  | steps + 1 =>
    match w.advance k with
    | none => (moved, w)
    | some w => turn w k true steps

def round (w : World) : Bool × World :=
  (List.range w.service.tasks.length).foldl (fun (moved, w) k => w.turn k moved patience) (false, w)

/-- The first time at which a frame that is held back is due. -/
def nextWake (w : World) : Option Nat :=
  (w.service.tasks.filterMap fun (_, t) =>
    match t.stage with
    | .holding wake => some wake
    | _ => none).min?

/-- Lets the playbacks run as far as they get, for up to `rounds` rounds. -/
def runFor (w : World) : (rounds : Nat) → World
  | 0 => w
  | rounds + 1 =>
    match w.round with
    | (true, w) => runFor w rounds
    | (false, w) =>
      match w.nextWake with
      | some wake => runFor { w with now := max w.now wake } rounds
      | none => w

/-- Moves on what waits in the queue of a session for a stream of room audio. -/
def pumpStream (w : World) (name : String) (stream : AudioStream) : World :=
  let waiting := ((w.service.sessions[stream.session]?).map (·.audio.waiting)).getD []
  let w := w.update stream.session fun s =>
    { s with audio := { s.audio with waiting := [] } }
  let stream := { stream with arrived := stream.arrived ++ waiting.flatten }
  { w with streams := (name, stream) :: w.streams.filter (·.1 ≠ name) }

/-- Lets the playbacks and the streams of room audio run as far as they get. -/
def run (w : World) : World :=
  let w := w.runFor patience
  w.streams.foldl (fun w (name, stream) => w.pumpStream name stream) w

/-! ## Waiting for results -/

/-- How a playback ended, if it has. -/
def endingOf (w : World) (k : Nat) : Option Ending := w.service.tasks[k]?.bind fun (_, t) => t.ending?

/-- Starts a playback and waits for its end: how it ended, nothing if it does not end. -/
def play (w : World) (id : String) (request : Request) :
    Except ServiceError (Option Ending) × World :=
  match w.start id request with
  | (.error e, w) => (.error e, w)
  | (.ok k, w) =>
    let w := w.run
    (.ok (w.endingOf k), w)

/-- A playback waits for the room to write a frame. -/
def isBlocked (w : World) (n : Nat) : Bool :=
  w.service.tasks.any fun (m, t) =>
    m = n && (match t.stage with
      | .writing true _ => true
      | _ => false)

/-- The number of the session opened last under an id. -/
def numberOf (w : World) (id : String) : Option Nat :=
  (List.range w.service.sessions.length).reverse.find? fun n =>
    (w.service.sessions[n]?.map (·.id)) = some id

/-- Waits until a playback waits for the room of its session: tells whether one does. -/
def waitBlocked (w : World) (id : String) : Bool × World :=
  match w.numberOf id with
  | none => (false, w)
  | some n =>
    if w.isBlocked n then (true, w)
    else
      let w := w.run
      (w.isBlocked n, w)

/-- Every playback of a session has ended. -/
def isSettled (w : World) (n : Nat) : Bool :=
  w.service.tasks.all fun (m, t) => m ≠ n || t.ending?.isSome

/-- Waits until the playbacks of a session have ended. -/
def settle (w : World) (id : String) : World :=
  match w.numberOf id with
  | none => w
  | some n => if w.isSettled n then w else w.run

def await (w : World) (k : Nat) : World := if (w.endingOf k).isSome then w else w.run

/-- Starts a playback and gives it up once the room lets it wait. Tells how it ended if that was before. -/
def abandonPlay (w : World) (id : String) (request : Request) :
    Except ServiceError (Option Ending) × World :=
  match w.start id request with
  | (.error e, w) => (.error e, w)
  | (.ok k, w) =>
    let w := w.run
    match w.endingOf k with
    | some ending => (.ok (some ending), w)
    | none => (.ok none, { w with service := w.service.cancelTask k })

/-- Redeems a ticket: how its playback ended, once, with a second nothing if it does not end. -/
def redeem (w : World) (ticket : Nat) : Option (Option Ending) × World :=
  match w.tickets[ticket]?.join with
  | none => (none, w)
  | some k =>
    let w := w.await k
    (some (w.endingOf k), { w with tickets := w.tickets.set ticket none })

def cancelTicket (w : World) (ticket : Nat) : World :=
  match w.tickets[ticket]?.join with
  | none => w
  | some k => { w with service := w.service.cancelTask k }

/-! ## Receiving room audio -/

/-- What a receiving end has for the one who asks. -/
inductive Received where
  | payload (bytes : Bytes)
  | empty
  /-- Nobody can send any more. -/
  | disconnected
  /-- There is no receiving end. -/
  | missing
deriving DecidableEq, Repr

/-- Somebody can still offer to the queue of a session: it is registered, or a playback of it runs. -/
def isReachable (w : World) (n : Nat) : Bool :=
  w.service.registry.any (·.2 = n) ||
    w.service.tasks.any fun (m, t) =>
      m = n && (match t.stage with
        | .reporting _ => false
        | .ended _ => false
        | _ => true)

/-- Takes the receiving end of a registered session and keeps it under its id. -/
def take (w : World) (id : String) : Except ServiceError Bool × World :=
  match w.service.takeRoomAudio id with
  | (.ok true, service) =>
    let number := (service.find id).toOption.getD 0
    (.ok true,
      { w with service, receivers := (id, number) :: w.receivers.filter (·.1 ≠ id) })
  | (result, service) => (result, { w with service })

/-- Receives from the receiving end kept under an id. -/
def receive (w : World) (id : String) : Received × World :=
  match w.receivers.lookup id with
  | none => (.missing, w)
  | some n =>
    match (w.service.sessions[n]?).map (·.audio.receive) with
    | some (some payload, audio) => (.payload payload, w.update n fun s => { s with audio })
    | _ => (if w.isReachable n then .empty else .disconnected, w)

end World

end Playout.Rehearsal
