import Playout.Pcm.Sample

/-!
# Linear resampling of a stream

The resampler reads a mono stream at equal steps of `source / target` samples and interpolates between
the two samples around each read position. It is fed chunk after chunk and keeps its position and the
samples that are still needed, so the edges of the chunks do not show in the output.

The arithmetic of positions is a parameter. Playback uses binary64 (`Float`); the exact rationals
(`Rat`) give the curve that the binary64 positions follow.
-/

namespace Playout.Pcm

/-- The arithmetic of read positions, counted in source samples. -/
class ReadPosition (α : Type) extends Add α, Sub α where
  /-- The source samples that one output sample advances. -/
  step : (source target : UInt32) → α
  /-- The position of the sample with this index. -/
  ofIndex : Nat → α
  /-- The index of the last sample at or before the position. -/
  index : α → Nat
  /-- The sample at `fraction` of the way from `left` to `right`, cut toward zero. -/
  between : (left right : Sample) → (fraction : α) → Sample

instance : ReadPosition Float where
  step source target := source.toUInt64.toFloat / (max target 1).toUInt64.toFloat
  ofIndex := Float.ofNat
  index p := p.toUInt64.toNat
  between left right fraction :=
    let value := left.toFloat + (right.toFloat - left.toFloat) * fraction
    (if value < -32768 then (-32768 : Float) else if 32767 < value then 32767 else value).toInt16

instance : ReadPosition Rat where
  step source target := mkRat source.toNat (max target 1).toNat
  ofIndex n := Rat.ofInt n
  index p := p.floor.toNat
  between left right fraction :=
    let value := Rat.ofInt left.toInt + Rat.ofInt (right.toInt - left.toInt) * fraction
    let cut := value.num.tdiv value.den
    Int16.ofInt (max (-32768) (min 32767 cut))

structure Resampler (α : Type) where
  source : UInt32
  target : UInt32
  /-- Samples that a later output may still need; the position counts from the first of them. -/
  pending : List Sample
  position : α

namespace Resampler

variable {α : Type} [ReadPosition α]

def new (source target : UInt32) : Resampler α :=
  ⟨source, target, [], ReadPosition.ofIndex 0⟩

/-- The source samples that one output sample advances. -/
def step (r : Resampler α) : α := ReadPosition.step r.source r.target

/-- Reads outputs from `position` on for as long as both samples around it are there. `samples` are the
samples from index `first` on. The result is the outputs and the first position not read. -/
def readAll (step : α) : Nat → Nat → List Sample → α → List Sample × α
  | 0, _, _, position => ([], position)
  | fuel + 1, first, samples, position =>
    let index := ReadPosition.index position
    match samples.drop (index - first) with
    | left :: right :: rest =>
      let fraction := position - ReadPosition.ofIndex index
      let (out, stop) := readAll step fuel index (left :: right :: rest) (position + step)
      (ReadPosition.between left right fraction :: out, stop)
    | _ => ([], position)

/-- Twice the outputs that `length` samples have room for. -/
def outputBound (r : Resampler α) (length : Nat) : Nat :=
  2 * (length * (max r.target 1).toNat / r.source.toNat) + 2

/-- Takes in a chunk and gives every output it completes. Samples behind the read position are dropped;
a position beyond the last sample keeps the rest of its way for the next chunk. -/
def push (r : Resampler α) (input : List Sample) : List Sample × Resampler α :=
  let samples := r.pending ++ input
  if samples.length < 2 then ([], { r with pending := samples })
  else
    let (out, stop) := readAll r.step (r.outputBound samples.length) 0 samples r.position
    let consumed := min (ReadPosition.index stop) samples.length
    (out, { r with pending := samples.drop consumed, position := stop - ReadPosition.ofIndex consumed })

def pushAll (r : Resampler α) : List (List Sample) → List (List Sample) × Resampler α
  | [] => ([], r)
  | chunk :: rest =>
    let (out, r) := r.push chunk
    let (outs, r) := r.pushAll rest
    (out :: outs, r)

end Resampler

end Playout.Pcm
