import Playout.Error
import Playout.Playback.Outcome
import Playout.Service.Basic

/-!
# Replies

A reply has a status and, mostly, a flat JSON document. What was refused or failed is told apart by whose
fault it is: of the one who asks, of the state of the service, or of those the service relies on.
-/

namespace Playout.Control

inductive Scalar where
  | text (s : String)
  | number (n : Nat)
  | flag (b : Bool)
deriving DecidableEq, Repr

inductive Content where
  | nothing
  | document (members : List (String × Scalar))
  /-- Room audio as it arrives, until the session is closed. -/
  | audio
deriving DecidableEq, Repr

structure Reply where
  status : Nat
  content : Content
deriving DecidableEq, Repr

def Content.mediaType : Content → Option String
  | .nothing => none
  | .document _ => some "application/json"
  | .audio => some "application/octet-stream"

/-- The status of a refused or failed operation. -/
def statusOf : ServiceError → Nat
  | .sessionNotFound _ => 404
  | .sessionExists _ => 409
  | .playback (.invalidRequest _) => 400
  | .playback _ | .delivery _ => 502

namespace Reply

def wrong (status : Nat) (message : String) : Reply := ⟨status, .document [("error", .text message)]⟩

def failed (e : ServiceError) : Reply := wrong (statusOf e) e.message

def noRoute (method path : String) : Reply := wrong 404 s!"no route for {method} {path}"

def unreadable (reason : String) : Reply := wrong 400 s!"invalid JSON body: {reason}"

def notJoined (reason : String) : Reply := wrong 500 reason

def audioTaken (id : String) : Reply :=
  wrong 409 s!"room audio of session {id} is already being streamed"

def health (h : Health) : Reply :=
  ⟨200, .document [("active_sessions", .number h.activeSessions),
    ("playing_sessions", .number h.playingSessions)]⟩

/-- A session was opened, and audio for it comes in at an address. -/
def opened (id address : String) : Reply :=
  ⟨201, .document [("session_id", .text id), ("rtp_local", .text address)]⟩

def closed : Reply := ⟨204, .nothing⟩

/-- A playback was stopped, or there was none. -/
def stopped (any : Bool) : Reply := ⟨200, .document [("stopped", .flag any)]⟩

def pushed (samples : Nat) : Reply := ⟨200, .document [("samples", .number samples)]⟩

def audio : Reply := ⟨200, .audio⟩

/-- How a playback ended, and how long it took. -/
def played (millis : Nat) : Ending → Reply
  | .ok (.completed samples) => ended "completed" samples
  | .ok (.cancelled samples) => ended "cancelled" samples
  | .error cause => failure cause
where
  /-- A playback ran. -/
  ended (status : String) (samples : Nat) : Reply :=
    ⟨200, .document [("status", .text status), ("duration_ms", .number millis),
      ("samples", .number samples)]⟩
  /-- A playback failed. -/
  failure (cause : PlaybackError) : Reply :=
    ⟨statusOf (.playback cause), .document [("status", .text "failed"), ("kind", .text cause.kind),
      ("error", .text cause.message)]⟩

def refused : ServiceError → Reply
  | .playback cause => played 0 (.error cause)
  | e => failed e

end Reply

end Playout.Control
