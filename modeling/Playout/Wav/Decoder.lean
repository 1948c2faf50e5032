import Playout.Pcm.StreamSpec
import Playout.Wav.Header

/-!
# Reading the audio of a RIFF/WAVE stream

Audio is read in buffers of whole sample frames, up to the declared size of the `data` chunk. A stream that
ends before it is a short stream, not an error; a sample frame that is cut off is left out.
-/

namespace Playout.Wav

open Source

structure Decoder where
  delivery : Delivery
  format : Format
  /-- Declared bytes that are still to come. -/
  remaining : Nat
  /-- Most bytes of one read, a whole number of sample frames. -/
  bufferBytes : Nat
deriving DecidableEq, Repr

/-- The whole sample frames that fit into `chunk` bytes, at least one, in bytes. -/
def bufferSize (chunk frameBytes : Nat) : Nat := max (chunk - chunk % frameBytes) frameBytes

namespace Decoder

/-- Reads the header and stands at the first byte of audio. -/
def new (d : Delivery) (readChunkBytes : Nat) : Except PlaybackError Decoder :=
  match readHeader d with
  | .error e => .error e
  | .ok (format, d) =>
    .ok ⟨d, format, format.dataBytes.toNat, bufferSize readChunkBytes format.frameBytes⟩

def spec (w : Decoder) : StreamSpec := ⟨w.format.sampleRate, w.format.channels⟩

/-- The next samples, or nothing at the end. A failed read leaves the count of what is to come. -/
def read (w : Decoder) : Except PlaybackError (Option (List Sample)) × Decoder :=
  if w.remaining = 0 then (.ok none, w)
  else
    match w.delivery.readFull (min w.bufferBytes w.remaining) with
    | (.error cause, d) => (.error (.transport cause.reason), { w with delivery := d })
    | (.ok [], d) => (.ok none, { w with delivery := d, remaining := 0 })
    | (.ok bytes, d) =>
      let whole := bytes.length - bytes.length % w.format.frameBytes
      (.ok (some (Pcm.ofLittleEndian (bytes.take whole))),
        { w with delivery := d, remaining := w.remaining - bytes.length })

end Decoder

end Playout.Wav
