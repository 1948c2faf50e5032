/-!
# Real-time pacing

A pacer holds frames back so that delivery follows the wall clock. Its schedule is anchored at the first
frame: a frame is due at the anchor plus the time of the samples booked before it. Lateness of up to one
frame is absorbed; a longer stall moves the anchor so that the current frame is due now. Times are whole
microseconds. A timer rings on whole milliseconds only, so a sleep lasts at least to the one that its end falls
into.
-/

namespace Playout

structure Pacer where
  /-- Samples a second, at least one. -/
  rate : Nat
  /-- The time of sample zero, once there was a first frame. -/
  anchor : Option Nat
  /-- Samples booked so far. -/
  booked : Nat
deriving DecidableEq, Repr

namespace Pacer

def new (rate : UInt32) : Pacer := ⟨max rate.toNat 1, none, 0⟩

/-- The whole microseconds that `samples` samples last. -/
def offset (p : Pacer) (samples : Nat) : Nat := 1000000 * samples / p.rate

/-- The audio time booked so far. -/
def scheduled (p : Pacer) : Nat := p.offset p.booked

/-- The next whole millisecond at or after a time. -/
def wholeMillisecond (time : Nat) : Nat := (time + 999) / 1000 * 1000

/-- When a sleep that starts at `now` ends, if it is to last until `due`. -/
def wake (now due : Nat) : Nat := max now (wholeMillisecond due)

/-- The anchor of a frame of `samples` samples that asks at `now`, and when the frame is due. -/
def due (p : Pacer) (now samples : Nat) : Nat × Nat :=
  let start := p.anchor.getD now
  let due := start + p.scheduled
  if due + p.offset samples < now then (now - p.scheduled, now) else (start, due)

/-- Books a frame of `samples` samples that asks at `now`: when the wait ends, and the schedule after it. -/
def wait (p : Pacer) (now samples : Nat) : Nat × Pacer :=
  let (anchor, due) := p.due now samples
  (wake now due, { p with anchor := some anchor, booked := p.booked + samples })

end Pacer

end Playout
