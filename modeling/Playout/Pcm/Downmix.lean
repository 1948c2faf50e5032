import Playout.Pcm.Sample
import Playout.Pcm.Frames

/-!
# Reducing interleaved audio to one channel

A sample frame holds one sample of each channel. Its average is taken in 32 bits and rounded toward
zero; a frame that is not complete is left out, and audio that already has one channel stays as it is.
-/

namespace Playout.Pcm

/-- The sum of the samples of a frame, in 32 bits. -/
def frameSum (frame : List Sample) : Int32 :=
  frame.foldl (fun sum s => sum + s.toInt32) 0

/-- The average of a sample frame of `channels` samples, rounded toward zero. -/
def frameAverage (channels : UInt16) (frame : List Sample) : Sample :=
  (frameSum frame / channels.toUInt32.toInt32).toInt16

/-- One sample for every complete frame of `channels` samples; no channel counts as one. -/
def downmix (channels : UInt16) (samples : List Sample) : List Sample :=
  if channels ≤ 1 then samples
  else (wholeFrames channels.toNat samples).map (frameAverage channels)

end Playout.Pcm
