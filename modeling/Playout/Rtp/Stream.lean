import Playout.Rtp.Packet

/-!
# Outbound streams

Every published track is a stream of its own, with a source identifier and a clock. A packet takes the clock
as it stands and moves it on by one in sequence and by its samples in time; both wrap. The first packet of a
stream carries the marker.
-/

namespace Playout.Rtp

/-- The clock of a stream. -/
structure Clock where
  sequence : UInt16
  timestamp : UInt32
  /-- No packet has been built yet. -/
  first : Bool := true
deriving DecidableEq, Repr

/-- The packet of the next frame, and the clock behind it. -/
def Clock.next (c : Clock) (ssrc : UInt32) (frame : List Sample) : Packet × Clock :=
  ({ Packet.ofSamples c.sequence c.timestamp ssrc frame with marker := c.first },
    { sequence := c.sequence + 1
      timestamp := c.timestamp + frame.length.toUInt32
      first := false })

structure Stream where
  ssrc : UInt32
  clock : Clock
deriving DecidableEq, Repr

end Playout.Rtp
