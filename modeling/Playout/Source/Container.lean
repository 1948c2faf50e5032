import Playout.Mpeg.Decoder
import Playout.Wav.Decoder

/-!
# Kinds of sources

A source is one of two kinds, told apart by the media type of the reply and by the path of the address. Each
kind has its decoder, and a decoder of either kind is asked for its parameters once and then for one run of
samples after another.
-/

namespace Playout

/-- The kinds of sources that can be played. -/
inductive AudioFormat where
  | mp3
  | wav
deriving DecidableEq, Repr

namespace AudioFormat

def name : AudioFormat → String
  | .mp3 => "mp3"
  | .wav => "wav"

def mediaTypes : AudioFormat → List String
  | .mp3 => ["audio/mpeg"]
  | .wav => ["audio/wav", "audio/x-wav", "audio/wave"]

/-- The end of a path that names a source of the kind. -/
def pathEnd : AudioFormat → String
  | .mp3 => ".mp3"
  | .wav => ".wav"

/-- One run of characters stands somewhere in another. -/
def occursIn (part : List Char) : List Char → Bool
  | [] => part.isEmpty
  | c :: rest => part.isPrefixOf (c :: rest) || occursIn part rest

/-- The capital letters of ASCII made small. -/
def folded (s : String) : List Char := s.toList.map Char.toLower

/-- A reply of this media type, or an address of this path, is of the kind. -/
def fits (format : AudioFormat) (contentType path : String) : Bool :=
  format.mediaTypes.any (fun t => occursIn t.toList (folded contentType)) ||
    format.pathEnd.toList.isSuffixOf (folded path)

/-- The kind of a source, if it is of one. What fits both kinds is taken for compressed audio. -/
def detect (contentType path : String) : Option AudioFormat :=
  [AudioFormat.mp3, .wav].find? (·.fits contentType path)

end AudioFormat

inductive Decoder where
  | mp3 (state : Mpeg.Decoder)
  | wav (state : Wav.Decoder)
deriving DecidableEq, Repr

namespace Decoder

def new (format : AudioFormat) (d : Source.Delivery) (readChunkBytes : Nat) :
    Except PlaybackError Decoder :=
  match format with
  | .mp3 => (Mpeg.Decoder.new d).map .mp3
  | .wav => (Wav.Decoder.new d readChunkBytes).map .wav

def spec : Decoder → StreamSpec
  | .mp3 state => state.spec
  | .wav state => state.spec

/-- The next samples, or nothing at the end. -/
def read : Decoder → Except PlaybackError (Option (List Sample)) × Decoder
  | .mp3 state => let (result, state) := state.read; (result, .mp3 state)
  | .wav state => let (result, state) := state.read; (result, .wav state)

end Decoder

end Playout
