/-!
# Measurements

A service counts what it does: playbacks by how they began and ended, audio delivered, room audio taken in
or dropped, sessions registered. Of two activities it also keeps how long each of them took; in what form is
left to the user of the measurements, who may keep every duration or only their number.
-/

namespace Playout

/-- The measurements of a service. Durations are kept in the form `τ`. -/
structure Metrics (τ : Type) where
  /-- Playbacks accepted. -/
  started : Nat := 0
  /-- Playbacks that reached the end of their source. -/
  completed : Nat := 0
  /-- Playbacks stopped before the end of their source. -/
  cancelled : Nat := 0
  /-- Playbacks ended by an error. -/
  failed : Nat := 0
  /-- Samples written to tracks. -/
  samples : Nat := 0
  /-- Frames written to tracks. -/
  frames : Nat := 0
  /-- Room audio payloads queued. -/
  received : Nat := 0
  /-- Room audio payloads dropped because the queue was full. -/
  dropped : Nat := 0
  /-- Sessions registered, as last set. -/
  sessions : Int := 0
  /-- From the request to the head of the reply. -/
  fetches : τ
  /-- From the start of a playback to its end. -/
  playbacks : τ
deriving DecidableEq, Repr

/-- Measurements that keep of the durations only how many there were. -/
abbrev Counters := Metrics Nat

def Counters.new : Counters := { fetches := 0, playbacks := 0 }

end Playout
