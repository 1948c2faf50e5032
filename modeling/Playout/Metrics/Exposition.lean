import Playout.Decimal.Positional
import Playout.Metrics.Basic
import Playout.Metrics.Histogram

/-!
# The text of the measurements

A scrape gets all measurements as text: for each family, in the order of the names, a line of explanation, a
line with its type, and a line for each of its values. Every value carries the name of the process. Counts
are written as binary64 numbers, so those above 2^53 are rounded, and they start again behind 2^64.
-/

namespace Playout.Exposition

/-- The measurements with histograms of the durations. -/
abbrev Measured := Metrics Histogram

def fetchBounds : List Float := [0.005, 0.01, 0.025, 0.05, 0.1, 0.25, 0.5, 1, 2.5, 5, 10]

def playbackBounds : List Float := [0.5, 1, 2.5, 5, 10, 30, 60, 120, 300]

def Measured.new : Measured := { fetches := .new fetchBounds, playbacks := .new playbackBounds }

/-! ## Values -/

def numberText (x : Float) : String := Decimal.doubleText x.toBits

/-- The text of a whole number as the nearest binary64 number. -/
def wholeText (n : Int) : String :=
  let nearest := Binary.Format.double.round ⟨n, 0⟩
  Decimal.text .double (.finite (n < 0) nearest.mantissa.natAbs nearest.exponent)

def countText (n : Nat) : String := wholeText (n % 0x10000000000000000 : Nat)

/-- The value of a label between its quotes. -/
def escape (s : String) : String :=
  String.ofList (s.toList.flatMap fun
    | '\\' => ['\\', '\\']
    | '\n' => ['\\', 'n']
    | '"' => ['\\', '"']
    | c => [c])

/-- Labels behind the name of a value. -/
def labels (pairs : List (String × String)) : String :=
  "\x7b" ++ ",".intercalate (pairs.map fun (name, value) => name ++ "=\"" ++ escape value ++ "\"") ++
    "\x7d"

/-! ## Families -/

/-- What the values of a family are. -/
inductive Kind where
  | counter (n : Nat)
  | gauge (n : Int)
  | histogram (h : Histogram)

def Kind.name : Kind → String
  | .counter _ => "counter"
  | .gauge _ => "gauge"
  | .histogram _ => "histogram"

structure Family where
  name : String
  help : String
  kind : Kind

def line (name : String) (pairs : List (String × String)) (value : String) : String :=
  name ++ labels pairs ++ " " ++ value

def Family.lines (process : String) (f : Family) : List String :=
  let name := "audio_bridge_" ++ f.name
  let own := [("process", process)]
  let values := match f.kind with
    | .counter n => [line name own (countText n)]
    | .gauge n => [line name own (wholeText n)]
    | .histogram h =>
      (Histogram.cumulative 0 h.buckets).map (fun (bound, n) =>
        line (name ++ "_bucket") (own ++ [("le", numberText bound)]) (countText n)) ++
      [line (name ++ "_bucket") (own ++ [("le", "+Inf")]) (countText h.count),
        line (name ++ "_sum") own (numberText h.sum),
        line (name ++ "_count") own (countText h.count)]
  [s!"# HELP {name} {f.help}", s!"# TYPE {name} {f.kind.name}"] ++ values

/-- The families in the order of their names. -/
def families (m : Measured) : List Family :=
  [⟨"active_sessions", "Room sessions currently registered", .gauge m.sessions⟩,
   ⟨"fetch_seconds", "Time from request to response headers when fetching a source (seconds)",
     .histogram m.fetches⟩,
   ⟨"frames_delivered_total", "Frames written to published tracks", .counter m.frames⟩,
   ⟨"playback_seconds", "Wall-clock playback duration (seconds)", .histogram m.playbacks⟩,
   ⟨"playbacks_cancelled_total", "Playbacks stopped or preempted before the end of their source",
     .counter m.cancelled⟩,
   ⟨"playbacks_completed_total", "Playbacks that reached the end of their source",
     .counter m.completed⟩,
   ⟨"playbacks_failed_total", "Playbacks aborted by a transport, format, decode or delivery error",
     .counter m.failed⟩,
   ⟨"playbacks_started_total", "Playback requests accepted", .counter m.started⟩,
   ⟨"room_audio_dropped_total", "Room audio payloads dropped because the control plane fell behind",
     .counter m.dropped⟩,
   ⟨"room_audio_received_total", "Room audio payloads queued for the control plane",
     .counter m.received⟩,
   ⟨"samples_delivered_total", "Mono PCM16 samples written to published tracks",
     .counter m.samples⟩]

/-- The text of the measurements of a process. -/
def text (process : String) (m : Measured) : String :=
  String.join (((families m).flatMap (Family.lines process)).map (· ++ "\n"))

/-! ## Scraping -/

structure Reply where
  status : Nat
  contentType : Option String
  body : String
deriving DecidableEq, Repr

/-- Answers a request for a path, which is compared without its query. -/
def answer (process : String) (m : Measured) (method target : String) : Reply :=
  if method = "GET" ∧ target.toList.takeWhile (· ≠ '?') = "/metrics".toList then
    ⟨200, some "text/plain; version=0.0.4", text process m⟩
  else ⟨404, none, "not found"⟩

end Playout.Exposition
