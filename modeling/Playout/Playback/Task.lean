import Playout.Pacer
import Playout.Pcm.Conditioner
import Playout.Pcm.Frames
import Playout.Playback.Outcome
import Playout.Playback.Request
import Playout.Session.Tracks
import Playout.Source.Container
import Playout.Source.Status

/-!
# A playback step by step

A playback waits for the lease, asks the origin for its source, takes from the decoder one run of samples
after another, conditions them, cuts them into frames and delivers each frame to its track: it obtains the
track for the first frame, lets the pacer hold the frame back, and has the room write it. When that ends, for
whatever reason, it closes its track, gives the lease up, drops its slot and reports.

The token is looked at whenever the playback has waited, and before each frame. While a call to the room has
not let it wait, it is not looked at, so what happens to the session inside such a call is noticed behind it.
-/

namespace Playout

inductive Task.Stage where
  /-- It has not run yet. -/
  | starting
  /-- It waits for the lease. -/
  | waiting
  /-- It waits for the origin. -/
  | fetching
  /-- It waits for the decoder. -/
  | listening
  /-- It is about to deliver the next frame, if there is one. -/
  | delivering
  /-- It obtains its track. -/
  | obtaining (o : Obtain)
  /-- It asks the pacer when the frame is due. -/
  | pacing
  /-- It holds the frame back until this time. -/
  | holding (wake : Nat)
  /-- The frame is being written; the room may let it wait, and may have accepted the frame. -/
  | writing (suspended recorded : Bool)
  /-- The frame was written. -/
  | counting
  /-- It takes its track off the map. -/
  | closing (ending : Ending)
  /-- It closes the track that it took off the map. -/
  | silencing (h : Handle) (ending : Ending)
  /-- It gives the lease up. -/
  | releasing (ending : Ending)
  /-- It drops its slot. -/
  | retiring (ending : Ending)
  /-- It counts how it ended. -/
  | reporting (ending : Ending)
  | ended (ending : Ending)
deriving Repr

structure Task where
  /-- The number of its slot. -/
  slot : Nat
  url : Url
  volume : Pcm.Gain
  trackName : String
  stage : Task.Stage := .starting
  /-- The tail of the stream, once its parameters are known. -/
  conditioner : Option (Pcm.Conditioner Float) := none
  /-- Its track, once it has obtained it. -/
  track : Option Handle := none
  /-- Conditioned samples behind the last complete frame. -/
  pending : List Sample := []
  /-- The frames to deliver before anything else, the one at hand first. -/
  todo : List Frame := []
  /-- These frames are the last. -/
  final : Bool := false
  /-- Holds frames back, if they are to be held back. -/
  pacer : Option Pacer := none
  /-- Samples delivered. -/
  delivered : Nat := 0

namespace Task

def new (config : Config) (slot : Nat) (url : Url) (request : Request) : Task :=
  { slot
    url
    volume := request.volume
    trackName := Track.normalize request.trackName
    pacer := if config.realtimePacing then some (.new canonicalRate) else none }

/-- How it ended, once it has. -/
def ending? (t : Task) : Option Ending :=
  match t.stage with
  | .ended ending => some ending
  | _ => none

/-! ## Ways on -/

def enter (t : Task) (stage : Stage) : Task := { t with stage }

/-- Ends because it was told to. -/
def stopped (t : Task) : Task := t.enter (.closing (.ok (.cancelled t.delivered)))

/-- Ends because of a failure. -/
def failed (t : Task) (cause : PlaybackError) : Task := t.enter (.closing (.error cause))

/-- Ends because everything is delivered. -/
def completed (t : Task) : Task := t.enter (.closing (.ok (.completed t.delivered)))

/-- Goes to the pacer with a track in hand, or past it. -/
def withTrack (t : Task) (h : Handle) : Task :=
  { t with
    track := some h
    stage := if t.pacer.isSome then .pacing else .writing false false }

/-- Books the frame at hand with the pacer: goes to write it, or holds it back. -/
def book (t : Task) (pacer : Pacer) (now : Nat) (frame : Frame) : Task :=
  let booked := pacer.wait now frame.length
  { t with
    pacer := some booked.2
    stage := if booked.1 ≤ now then .writing false false else .holding booked.1 }

def receive (t : Task) : Except String Head → Task
  | .error reason => t.failed (.transport reason)
  | .ok head =>
    if head.status / 100 ≠ 2 then
      t.failed (.httpStatus head.status (Source.reasonPhrase head.status))
    else if (AudioFormat.detect head.contentType t.url.path).isNone then
      t.failed (.unsupportedFormat head.contentType)
    else t.enter .listening

def hear (frameSamples : Nat) (t : Task) : Event → Task
  | .spec spec =>
    { t with conditioner := some (.new spec canonicalRate t.volume), stage := .listening }
  | .samples samples =>
    match t.conditioner with
    | none => t.failed (.internal "decoded audio before stream parameters")
    | some tail =>
      let (mono, tail) := tail.process samples
      { t with
        conditioner := some tail
        todo := Pcm.wholeFrames frameSamples (t.pending ++ mono)
        pending := Pcm.frameRemainder frameSamples (t.pending ++ mono)
        stage := .delivering }
  | .failed cause => t.failed cause

/-- Takes in the end of the source: what is pending makes the last frame. -/
def flush (t : Task) : Task :=
  if t.pending = [] then t.completed
  else { t with todo := [t.pending], pending := [], final := true, stage := .delivering }

/-! ## Steps -/

abbrev Scene := Task × Session × Counters

/-- The steps up to the first event. -/
def stepOpening (s : Session) (m : Counters) (t : Task) (cue : Cue) : Option Scene :=
  let quit := t.enter (.retiring (.ok (.cancelled 0)))
  match t.stage, cue with
  | .starting, .go =>
    if s.isCancelled t.slot then some (quit, s, m)
    else
      let s := { s with lease := s.lease.request t.slot }
      some (t.enter (if s.lease.holder = some t.slot then .fetching else .waiting), s, m)
  | .waiting, .go =>
    if s.isCancelled t.slot then some (quit, { s with lease := s.lease.leave t.slot }, m)
    else if s.lease.holder = some t.slot then some (t.enter .fetching, s, m)
    else none
  | .fetching, cue =>
    let m := { m with fetches := m.fetches + 1 }
    match s.isCancelled t.slot, cue with
    | true, .go => some (t.stopped, s, m)
    | true, .answered _ => some (t.stopped, s, m)
    | false, .answered result => some (t.receive result, s, m)
    | _, _ => none
  | .listening, cue =>
    match s.isCancelled t.slot, cue with
    | true, .go => some (t.stopped, s, m)
    | true, .event _ => some (t.stopped, s, m)
    | true, .over => some (t.stopped, s, m)
    | false, .event event => some (t.hear s.frameSamples event, s, m)
    | false, .over => some (t.flush, s, m)
    | _, _ => none
  | _, _ => none

/-- The steps that deliver one frame. -/
def stepDelivery (s : Session) (m : Counters) (t : Task) (cue : Cue) : Option Scene :=
  match t.stage, cue with
  | .delivering, .go =>
    if t.todo.isEmpty then some (if t.final then t.completed else t.enter .listening, s, m)
    else if s.isCancelled t.slot then some (t.stopped, s, m)
    else
      match t.track with
      | some h => some (t.withTrack h, s, m)
      | none => some (t.enter (.obtaining .asking), s, m)
  | .obtaining (.publishing true), .go =>
    if s.isCancelled t.slot then some (t.stopped, s, m)
    else some (t.enter (.obtaining (.publishing false)), s, m)
  | .obtaining o, cue =>
    if o = .publishing true ∧ s.isCancelled t.slot then some (t.stopped, s, m)
    else
      match o.step s t.trackName cue with
      | none => none
      | some (.inl o, s) => some (t.enter (.obtaining o), s, m)
      | some (.inr (.ok h), s) => some (t.withTrack h, s, m)
      | some (.inr (.error cause), s) => some (t.failed (.delivery cause), s, m)
  | .pacing, .time now =>
    match t.pacer, t.todo with
    | some pacer, frame :: _ => some (t.book pacer now frame, s, m)
    | _, _ => none
  | .holding wake, .time now =>
    if s.isCancelled t.slot then some (t.stopped, s, m)
    else if wake ≤ now then some (t.enter (.writing false false), s, m)
    else none
  | .writing true false, cue =>
    if s.isCancelled t.slot then some (t.stopped, s, m)
    else
      match cue with
      | .go => some (t.enter (.writing false false), s, m)
      | .recorded => record s m t
      | .written (.error cause) => some (t.failed (.delivery cause), s, m)
      | _ => none
  | .writing false false, .suspended => some (t.enter (.writing true false), s, m)
  | .writing false false, .recorded => record s m t
  | .writing false false, .written (.error cause) => some (t.failed (.delivery cause), s, m)
  | .writing _ true, .written (.ok ()) => some (t.enter .counting, s, m)
  | .counting, .go =>
    match t.todo with
    | [] => none
    | frame :: rest =>
      some ({ t with
          todo := rest
          delivered := t.delivered + frame.length
          stage := .delivering }, s,
        { m with frames := m.frames + 1, samples := m.samples + frame.length })
  | _, _ => none
where
  /-- The room accepts the frame at hand for an open track. -/
  record (s : Session) (m : Counters) (t : Task) : Option Scene :=
    match t.track, t.todo with
    | some h, frame :: _ =>
      if s.room.isClosed h then none
      else some (t.enter (.writing false true), { s with room := s.room.record h frame }, m)
    | _, _ => none

def stepClosing (s : Session) (m : Counters) (t : Task) : Option Scene :=
  match t.stage with
  | .closing ending =>
    match s.unlist t.trackName with
    | (some h, s) => some (t.enter (.silencing h ending), s, m)
    | (none, s) => some (t.enter (.releasing ending), s, m)
  | .silencing h ending => some (t.enter (.releasing ending), s.closeHandle h, m)
  | .releasing ending =>
    some (t.enter (.retiring ending), { s with lease := s.lease.leave t.slot }, m)
  | .retiring ending => some (t.enter (.reporting ending), s.finish t.slot, m)
  | .reporting ending => some (t.enter (.ended ending), s, m.countEnding ending)
  | _ => none

/-- The next step of a playback. A cue that does not fit leads nowhere. -/
def step (s : Session) (m : Counters) (t : Task) (cue : Cue) : Option Scene :=
  match t.stage with
  | .starting | .waiting | .fetching | .listening => stepOpening s m t cue
  | .delivering | .obtaining _ | .pacing | .holding _ | .writing .. | .counting =>
    stepDelivery s m t cue
  | .closing _ | .silencing .. | .releasing _ | .retiring _ | .reporting _ =>
    match cue with
    | .go => stepClosing s m t
    | _ => none
  | .ended _ => none

end Task

end Playout
