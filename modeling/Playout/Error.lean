/-!
# Why something failed

Causes are kept apart by who is at fault: the source's format, the delivery into the room, the playback as
a whole, the control operation. Cancellation is none of them: a stopped playback ends, it does not fail.
-/

namespace Playout

/-- Why a source is not audio that can be played. -/
inductive FormatError where
  | notRiff
  | notWave
  | fmtTooShort (size : Nat)
  | encoding (tag : Nat)
  | bitDepth (bits : Nat)
  | channels (count : Nat)
  | sampleRate (rate : Nat)
  | missingChunk (name : String)
  | truncated (part : String)
  | probe (reason : String)
deriving DecidableEq, Repr

/-- Why a frame did not reach its track. -/
inductive DeliveryError where
  | roomClosed
  | trackClosed (name : String)
  | io (reason : String)
deriving DecidableEq, Repr

/-- Why a playback failed. The session stays usable after each of these. -/
inductive PlaybackError where
  | invalidRequest (reason : String)
  | transport (reason : String)
  | httpStatus (status : Nat) (reason : String)
  | unsupportedFormat (contentType : String)
  | format (cause : FormatError)
  | decode (reason : String)
  | delivery (cause : DeliveryError)
  | internal (reason : String)
deriving DecidableEq, Repr

/-- Why a control operation was refused or failed. -/
inductive ServiceError where
  | sessionNotFound (id : String)
  | sessionExists (id : String)
  | playback (cause : PlaybackError)
  | delivery (cause : DeliveryError)
deriving DecidableEq, Repr

/-! ## Wording -/

/-- At least four hexadecimal digits behind `0x`. -/
def hexWord (n : Nat) : String :=
  let digits := Nat.toDigits 16 n
  "0x" ++ String.ofList (List.replicate (4 - digits.length) '0' ++ digits)

def FormatError.message : FormatError → String
  | .notRiff => "not a RIFF container"
  | .notWave => "RIFF container is not WAVE"
  | .fmtTooShort size => s!"fmt chunk too short: {size} bytes (need at least 16)"
  | .encoding tag => s!"unsupported WAV encoding {hexWord tag} (only integer PCM is supported)"
  | .bitDepth bits => s!"unsupported bit depth: {bits}-bit (only 16-bit is supported)"
  | .channels count => s!"unsupported channel count: {count} (only mono or stereo is supported)"
  | .sampleRate rate => s!"invalid sample rate: {rate}"
  | .missingChunk name => s!"missing {name} chunk"
  | .truncated part => s!"container truncated while reading {part}"
  | .probe reason => s!"compressed stream probe failed: {reason}"

def DeliveryError.message : DeliveryError → String
  | .roomClosed => "room is disconnected"
  | .trackClosed name => s!"track '{name}' is closed"
  | .io reason => s!"track write failed: {reason}"

def PlaybackError.message : PlaybackError → String
  | .invalidRequest reason => s!"invalid request: {reason}"
  | .transport reason => s!"failed to fetch audio: {reason}"
  | .httpStatus status reason => s!"HTTP error: {status} {reason}"
  | .unsupportedFormat contentType => s!"unsupported audio format: content-type '{contentType}'"
  | .format cause => s!"malformed audio: {cause.message}"
  | .decode reason => s!"decode error: {reason}"
  | .delivery cause => s!"failed to write audio: {cause.message}"
  | .internal reason => s!"internal error: {reason}"

def ServiceError.message : ServiceError → String
  | .sessionNotFound id => s!"session not found: {id}"
  | .sessionExists id => s!"session already exists: {id}"
  | .playback cause => cause.message
  | .delivery cause => cause.message

/-! ## Categories -/

def DeliveryError.kind : DeliveryError → String
  | .roomClosed => "room_closed"
  | .trackClosed _ => "track_closed"
  | .io _ => "io"

/-- The word for a failed playback, in logs and replies. -/
def PlaybackError.kind : PlaybackError → String
  | .invalidRequest _ => "invalid_request"
  | .transport _ | .httpStatus .. => "transport"
  | .unsupportedFormat _ | .format _ => "format"
  | .decode _ => "decode"
  | .delivery _ => "delivery"
  | .internal _ => "internal"

def ServiceError.kind : ServiceError → String
  | .sessionNotFound _ => "session_not_found"
  | .sessionExists _ => "session_exists"
  | .playback cause => cause.kind
  | .delivery cause => cause.kind

end Playout
