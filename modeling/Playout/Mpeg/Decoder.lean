import Playout.Mpeg.MainData
import Playout.Mpeg.Stream
import Playout.Mpeg.Summary

/-!
# Decoding an MPEG audio stream

One frame of the third layer is decoded at a time. The parameters of the first frame are those of the stream.
Frames are played as silence of their length: the reader checks how a frame is built and coded, it does not
synthesise sound. A frame that sums up the stream is passed over. A frame whose parameters differ from the
first decoded one, or whose side information or data is unsound, is an error; the frames behind it can still
be read.
-/

namespace Playout.Mpeg

open Source

/-- A decoder in front of a frame. -/
structure Decoder where
  delivery : Delivery
  spec : StreamSpec
  /-- The parameters of the first frame that was handed to the decoder. -/
  decoding : Option StreamSpec
  /-- Bytes of data that the frames so far have left for later ones. -/
  kept : Nat
deriving DecidableEq, Repr

namespace Decoder

/-- Finds the stream and its parameters, and stands in front of the first frame that is played. -/
def new (d : Delivery) : Except PlaybackError Decoder :=
  match findStream d with
  | .error e => .error e
  | .ok d1 =>
    match firstFrame d1 with
    | (.error stop, _) => .error stop.inHeader
    | (.ok f, d2) =>
      if f.header.layer = .third then
        .ok ⟨if f.isSummary then d2 else d2.unread f.image, f.header.spec, none, 0⟩
      else
        .error (.format (.probe
          "no decoder for stream: unsupported feature: core (codec):unsupported codec"))

/-- Passes over the side information and the data of a frame. -/
def passData (f : Frame) (kept : Nat) : Except PlaybackError Nat :=
  match SideInfo.read f.header f.body with
  | .error reason => .error (malformedFrame reason)
  | .ok info => info.passData f.header kept

/-- Decodes a frame. After an unsound one nothing of the data before it is used. -/
def decode (m : Decoder) (f : Frame) : Except PlaybackError (List Sample) × Decoder :=
  let spec := f.header.spec
  if m.decoding.getD spec ≠ spec then
    (.error (malformedFrame "mpa: invalid audio buffer signal spec for packet"), m)
  else
    let m := { m with decoding := some spec }
    if f.header.layer ≠ .third then (.error (malformedFrame "mpa: invalid mpeg audio layer"), m)
    else
      match passData f m.kept with
      | .error e => (.error e, { m with kept := 0 })
      | .ok kept =>
        (.ok (List.replicate (f.header.samplesPerChannel * f.header.channels) 0), { m with kept })

/-- The samples of the next frame, or nothing at the end. A frame that is cut off ends the stream. -/
def read (m : Decoder) : Except PlaybackError (Option (List Sample)) × Decoder :=
  match nextFrame m.delivery with
  | (.error .ended, d) => (.ok none, { m with delivery := d })
  | (.error (.fault cause), d) => (.error (.transport cause.reason), { m with delivery := d })
  | (.ok f, d) =>
    match decode { m with delivery := d } f with
    | (.ok samples, m) => (.ok (some samples), m)
    | (.error e, m) => (.error e, m)

end Decoder

end Playout.Mpeg
