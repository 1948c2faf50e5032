import Playout.Binary.Format
import Playout.Pcm.Sample

/-!
# Linear gain

A gain is a binary32 factor. A scaled sample is the binary64 product, held to the range of a sample
and cut toward zero. The product of a 16-bit integer and a 24-bit significand fits binary64, so the
rounding never shows. A silent sample times an infinity is not a number, and such a result is silence.
A factor of exactly one leaves the audio alone.
-/

namespace Playout.Pcm

open Binary

/-- A linear factor, by its binary32 pattern. -/
structure Gain where
  bits : UInt32
deriving DecidableEq, Repr

namespace Gain

def unity : Gain := ⟨0x3f800000⟩

def value (g : Gain) : Value := Format.single.decode g.bits.toNat

/-- Usable as the volume of a playback: finite and not below zero. -/
def isVolume (g : Gain) : Bool := g.value.isFinite && !g.value.isNegative

end Gain

/-- An integer held to the range of a sample. -/
def saturate (n : Int) : Sample := Int16.ofInt (max (-32768) (min 32767 n))

/-- The sample of a value: cut toward zero and held to the range. A NaN is silence. -/
def toSample : Value → Sample
  | .nan => 0
  | .infinite negative => if negative then -32768 else 32767
  | .finite negative magnitude exponent => saturate (Scaled.signed negative magnitude exponent).truncate

/-- The sample times the factor, both in binary64, held to the range of a sample and cut toward zero. -/
def scale (g : Gain) (s : Sample) : Sample :=
  let product := Format.double.multiply (Format.double.convert (.ofInt s.toInt)) (Format.double.convert g.value)
  toSample (product.clamp (.ofInt (-32768)) (.ofInt 32767))

/-- Every sample scaled; a factor of one skips the work. -/
def applyGain (g : Gain) (samples : List Sample) : List Sample :=
  if g = Gain.unity then samples else samples.map (scale g)

end Playout.Pcm
