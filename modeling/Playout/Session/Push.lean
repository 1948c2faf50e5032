import Playout.Pcm.Frames
import Playout.Session.Tracks

/-!
# Pushing audio to a track

The control plane may write to a track without a playback: raw samples, cut into frames, as fast as the track
accepts them. The track is obtained once, and the first failure ends the push. Frames are counted one by one,
samples when all of them are written. Nothing is looked up for a push without samples.
-/

namespace Playout

inductive Push.Stage where
  | obtaining (o : Obtain)
  /-- A frame is being written; the room may have accepted it. -/
  | writing (recorded : Bool)
  /-- A frame was written. -/
  | counting
  | done (result : Except DeliveryError Nat)
deriving Repr

structure Push where
  trackName : String
  /-- Samples of the whole push. -/
  total : Nat
  /-- The track, once it is obtained. -/
  track : Option Handle := none
  /-- The frames to write, the one being written first. -/
  todo : List Frame
  stage : Push.Stage
deriving Repr

namespace Push

/-- The push of raw samples, low byte first; a byte without a partner is left out. -/
def new (s : Session) (trackName : String) (pcm : Bytes) : Push :=
  let samples := Pcm.ofLittleEndian pcm
  { trackName
    total := samples.length
    todo := Pcm.pieces s.frameSamples samples
    stage := if samples = [] then .done (.ok 0) else .obtaining .asking }

def result? (p : Push) : Option (Except DeliveryError Nat) :=
  match p.stage with
  | .done result => some result
  | _ => none

/-- The next step of a push. A cue that does not fit leads nowhere. -/
def step (s : Session) (m : Counters) (p : Push) (cue : Cue) : Option (Push × Session × Counters) :=
  match p.stage with
  | .obtaining o =>
    match o.step s p.trackName cue with
    | none => none
    | some (.inl o, s) => some ({ p with stage := .obtaining o }, s, m)
    | some (.inr (.error cause), s) => some ({ p with stage := .done (.error cause) }, s, m)
    | some (.inr (.ok h), s) => some ({ p with track := some h, stage := .writing false }, s, m)
  | .writing recorded =>
    match cue, p.track, p.todo with
    | .recorded, some h, frame :: _ =>
      if recorded ∨ s.room.isClosed h then none
      else some ({ p with stage := .writing true }, { s with room := s.room.record h frame }, m)
    | .written (.error cause), _, _ =>
      if recorded then none else some ({ p with stage := .done (.error cause) }, s, m)
    | .written (.ok ()), _, _ => if recorded then some ({ p with stage := .counting }, s, m) else none
    | _, _, _ => none
  | .counting =>
    match cue, p.todo with
    | .go, _ :: [] =>
      some ({ p with todo := [], stage := .done (.ok p.total) }, s,
        { m with frames := m.frames + 1, samples := m.samples + p.total })
    | .go, _ :: rest =>
      some ({ p with todo := rest, stage := .writing false }, s, { m with frames := m.frames + 1 })
    | _, _ => none
  | .done _ => none

end Push

end Playout
