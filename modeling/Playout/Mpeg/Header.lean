import Playout.Pcm.Sample
import Playout.Pcm.StreamSpec

/-!
# Headers of MPEG audio frames

A frame opens with a header of four bytes: eleven set bits to synchronise on, then the version, the layer,
the bit rate, the sample rate and the channel mode. Header and parameters fix the size of the frame, so a
reader that has found one frame knows where the next one starts.
-/

namespace Playout.Mpeg

/-- The three revisions of the format; the half rates came with the second. -/
inductive Version where
  | one
  | two
  | twoAndHalf
deriving DecidableEq, Repr

inductive Layer where
  | first
  | second
  | third
deriving DecidableEq, Repr

structure Header where
  version : Version
  layer : Layer
  /-- A checksum stands behind the header. -/
  checked : Bool
  /-- Bits a second. -/
  bitRate : Nat
  /-- Samples a second. -/
  sampleRate : Nat
  /-- The frame has one slot more. -/
  padded : Bool
  mono : Bool
  /-- Where the channels have a sound in common, the second one says how it is shared out. -/
  intensity : Bool
deriving DecidableEq, Repr

/-- The four bytes of a header as one number, the first byte highest. -/
abbrev Word := UInt32

def headerBytes : Nat := 4

def checksumBytes : Nat := 2

def wordOf (b3 b2 b1 b0 : UInt8) : Word :=
  (b3.toUInt32 <<< 24) ||| (b2.toUInt32 <<< 16) ||| (b1.toUInt32 <<< 8) ||| b0.toUInt32

/-- The field of `width` bits that starts at bit `low`. -/
def bitField (w : Word) (low width : Nat) : Nat := w.toNat / Nat.pow 2 low % Nat.pow 2 width

/-- The eleven sync bits are set and no field holds a value that is set aside. -/
def wellFormed (w : Word) : Bool :=
  bitField w 21 11 = 0x7ff ∧ bitField w 19 2 ≠ 1 ∧ bitField w 17 2 ≠ 0 ∧ bitField w 12 4 ≠ 15 ∧
    bitField w 10 2 ≠ 3

/-! ## Tables of the format -/

/-- The bit rates of a version and a layer in kilobits a second, by their index from 1 to 14. -/
def kilobits : Version → Layer → List Nat
  | .one, .first => [32, 64, 96, 128, 160, 192, 224, 256, 288, 320, 352, 384, 416, 448]
  | .one, .second => [32, 48, 56, 64, 80, 96, 112, 128, 160, 192, 224, 256, 320, 384]
  | .one, .third => [32, 40, 48, 56, 64, 80, 96, 112, 128, 160, 192, 224, 256, 320]
  | _, .first => [32, 48, 56, 64, 80, 96, 112, 128, 144, 160, 176, 192, 224, 256]
  | _, _ => [8, 16, 24, 32, 40, 48, 56, 64, 80, 96, 112, 128, 144, 160]

def sampleRates : Version → List Nat
  | .one => [44100, 48000, 32000]
  | .two => [22050, 24000, 16000]
  | .twoAndHalf => [11025, 12000, 8000]

def versionOf? : Nat → Option Version
  | 0 => some .twoAndHalf
  | 2 => some .two
  | 3 => some .one
  | _ => none

def layerOf? : Nat → Option Layer
  | 1 => some .third
  | 2 => some .second
  | 3 => some .first
  | _ => none

/-- In the second layer one channel has no use for the high bit rates, and two do not fit into the low ones. -/
def suitsChannels (kilobits : Nat) (mono : Bool) : Bool :=
  !(if mono then [224, 256, 320, 384] else [32, 48, 56, 80]).contains kilobits

namespace Header

/-- Reads a header. A frame of free bit rate, whose size the header does not fix, is none. -/
def ofWord? (w : Word) : Option Header := do
  guard (wellFormed w)
  let version ← versionOf? (bitField w 19 2)
  let layer ← layerOf? (bitField w 17 2)
  let index := bitField w 12 4
  guard (index ≠ 0)
  let rate ← (kilobits version layer)[index - 1]?
  let sampleRate ← (sampleRates version)[bitField w 10 2]?
  let mono := bitField w 6 2 = 3
  guard (layer ≠ .second ∨ suitsChannels rate mono)
  return {
    version
    layer
    checked := bitField w 16 1 = 0
    bitRate := 1000 * rate
    sampleRate
    padded := bitField w 9 1 = 1
    mono
    intensity := bitField w 6 2 = 1 && bitField w 4 1 = 1 }

def channels (h : Header) : Nat := if h.mono then 1 else 2

def spec (h : Header) : StreamSpec := ⟨h.sampleRate.toUInt32, h.channels.toUInt16⟩

def frameBytes (h : Header) : Nat :=
  let slots (perFrame : Nat) := perFrame * h.bitRate / h.sampleRate + (if h.padded then 1 else 0)
  match h.layer, h.version with
  | .first, _ => 4 * slots 12
  | .second, _ => slots 144
  | .third, .one => slots 144
  | .third, _ => slots 72

def bodyBytes (h : Header) : Nat := h.frameBytes - headerBytes

def sideInfoBytes (h : Header) : Nat :=
  match h.version, h.mono with
  | .one, true => 17
  | .one, false => 32
  | _, true => 9
  | _, false => 17

def dataBytes (h : Header) : Nat :=
  h.bodyBytes - (if h.checked then checksumBytes else 0) - h.sideInfoBytes

/-- Runs of 576 samples in a frame of the third layer. -/
def granules (h : Header) : Nat := if h.version = .one then 2 else 1

/-- Samples of one channel in a frame of the third layer. -/
def samplesPerChannel (h : Header) : Nat := 576 * h.granules

/-- The four bytes could open the next frame of the same stream. -/
def continuedBy (h : Header) (w : Word) : Bool :=
  match ofWord? w with
  | none => false
  | some next =>
    next.version = h.version ∧ next.layer = h.layer ∧ next.sampleRate = h.sampleRate ∧
      next.mono = h.mono

end Header

end Playout.Mpeg
