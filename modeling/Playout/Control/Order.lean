import Playout.Json.Record
import Playout.Playback.Request
import Playout.Rtp.Endpoint
import Playout.Track.Name

/-!
# Orders

Whoever asks for a session or a playback says more in a JSON record. An order to play names the track by text
or by number; a text that is not empty comes first.
-/

namespace Playout.Control

open Json

structure OpenOrder where
  sessionId : String := ""
  remote : Rtp.Endpoint := .ipv4 0 0
deriving DecidableEq, Repr

/-- What is to be played, how loud, and on which track. -/
structure PlayOrder where
  sourceUrl : String := ""
  volume : Option Pcm.Gain := none
  trackName : Option String := none
  trackNumber : Option Int := none
deriving DecidableEq, Repr

/-! ## Values -/

def text : Reader String := Reader.text "a string"

def endpoint : Reader Rtp.Endpoint := do
  match Rtp.Endpoint.parse? (← Reader.text "socket address") with
  | some endpoint => return endpoint
  | none => Reader.fail .endpoint

def gainOf : Number → Pcm.Gain
  | .natural n => ⟨n.toUInt64.toFloat32.toBits⟩
  | .negative n => ⟨(-n.toUInt64.toFloat32).toBits⟩
  | .real x => ⟨x.toFloat32.toBits⟩

def gain : Reader Pcm.Gain := return gainOf (← Reader.anyNumber "f32")

def signed32? : Number → Except Cause Int
  | .natural n =>
    if n < 0x80000000 then .ok n else .error (.unfit (Number.natural n).described "i32")
  | .negative n =>
    if n ≤ 0x80000000 then .ok (-n) else .error (.unfit (Number.negative n).described "i32")
  | .real x => .error (.mismatch (Number.real x).described "i32")

def signed32 : Reader Int := do
  match signed32? (← Reader.anyNumber "i32") with
  | .ok n => return n
  | .error cause => Reader.fail cause

/-! ## Records -/

def OpenOrder.shape : Shape OpenOrder where
  name := "struct OpenSessionBody"
  members :=
    [⟨"session_id", true, fun o => return { o with sessionId := ← text }⟩,
      ⟨"rtp_remote", true, fun o => return { o with remote := ← endpoint }⟩]

def PlayOrder.shape : Shape PlayOrder where
  name := "struct PlayBody"
  members :=
    [⟨"source_url", true, fun o => return { o with sourceUrl := ← text }⟩,
      ⟨"volume", false, fun o => return { o with volume := ← Reader.optional gain }⟩,
      ⟨"track_name", false, fun o => return { o with trackName := ← Reader.optional text }⟩,
      ⟨"track_id", false, fun o => return { o with trackNumber := ← Reader.optional signed32 }⟩]

/-- Reads an order, or says what is wrong with it. -/
def readOrder {σ : Type} (shape : Shape σ) (blank : σ) (body : Bytes) : Except String σ :=
  match Reader.whole (Reader.record shape blank) body with
  | .ok order => .ok order
  | .error fault => .error (fault.message body)

def OpenOrder.read (body : Bytes) : Except String OpenOrder := readOrder shape {} body

def PlayOrder.read (body : Bytes) : Except String PlayOrder := readOrder shape {} body

/-! ## Requests -/

/-- The name of the track of an order, empty if it names none. -/
def PlayOrder.track (o : PlayOrder) : String :=
  match o.trackName.filter (!·.isEmpty), o.trackNumber with
  | some name, _ => name
  | none, some n => Track.nameOfNumber n
  | none, none => ""

def PlayOrder.request (o : PlayOrder) : Request :=
  ⟨o.sourceUrl, o.volume.getD .unity, o.track⟩

end Playout.Control
