import Playout.Pcm.Downmix
import Playout.Pcm.Gain
import Playout.Pcm.Resampler
import Playout.Pcm.StreamSpec

/-!
# From decoded audio to the canonical form

Every decoded stream passes the same tail: its channels are averaged, its rate is converted, its volume
is set. A stream that already has the target rate passes by the resampler, which would hold back its
last sample.
-/

namespace Playout.Pcm

/-- The tail of one stream. -/
structure Conditioner (α : Type) where
  channels : UInt16
  resampler : Option (Resampler α)
  gain : Gain

namespace Conditioner

variable {α : Type} [ReadPosition α]

def new (spec : StreamSpec) (target : UInt32) (gain : Gain) : Conditioner α where
  channels := spec.channels
  resampler := if spec.sampleRate = target then none else some (Resampler.new spec.sampleRate target)
  gain := gain

/-- The stream needs its rate converted. -/
def resamples (c : Conditioner α) : Bool := c.resampler.isSome

/-- Runs one unit of interleaved audio through the tail. -/
def process (c : Conditioner α) (interleaved : List Sample) : List Sample × Conditioner α :=
  let mono := downmix c.channels interleaved
  match c.resampler with
  | none => (applyGain c.gain mono, c)
  | some r =>
    let (out, r) := r.push mono
    (applyGain c.gain out, { c with resampler := some r })

def processAll (c : Conditioner α) : List (List Sample) → List (List Sample) × Conditioner α
  | [] => ([], c)
  | unit :: rest =>
    let (out, c) := c.process unit
    let (outs, c) := c.processAll rest
    (out :: outs, c)

end Conditioner

end Playout.Pcm
