import Playout.Error
import Playout.Pcm.Sample
import Playout.Pcm.StreamSpec

/-!
# Cues

Work in a session goes on step by step, and some steps wait for something outside: the room, the origin of a
source, the decoder, the clock. A cue is what lets the next step happen.
-/

namespace Playout

/-- What a decoder reports. -/
inductive Event where
  | spec (spec : StreamSpec)
  | samples (samples : List Sample)
  | failed (cause : PlaybackError)
deriving DecidableEq, Repr

/-- The head of the reply of an origin. A content type that is no text counts as empty. -/
structure Head where
  status : Nat
  contentType : String
deriving DecidableEq, Repr

/-- What lets a step happen. -/
inductive Cue where
  /-- The work runs on by itself, or looks whether it can. -/
  | go
  /-- The room lets its caller wait. -/
  | suspended
  /-- The room is done with a request for a track. -/
  | published (result : Except DeliveryError Unit)
  /-- The room accepts the frame. -/
  | recorded
  /-- The room is done with a frame. -/
  | written (result : Except DeliveryError Unit)
  /-- The origin answers, or cannot be reached for this reason. -/
  | answered (result : Except String Head)
  /-- The decoder reports. -/
  | event (event : Event)
  /-- The decoder has nothing more to report. -/
  | over
  /-- The clock shows this time, in microseconds. -/
  | time (now : Nat)
deriving Repr

end Playout
