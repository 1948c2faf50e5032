import Playout.Playback.Task
import Playout.Session.Push

/-!
# The service

A service keeps the sessions it has opened in a registry by their ids and runs the playbacks it has accepted.
A session that leaves the registry is closed, but work that was begun on it may go on for a while, so every
session keeps its number for good. The gauge of registered sessions is stored whenever the registry changes.

Operations that take more than one step from another thread's point of view are put together from those
steps: a session leaves the registry in one step and is closed in the next, and a shutdown empties the
registry, stores the gauge and closes one session after another.
-/

namespace Playout

/-- A service and all it has opened and accepted. -/
structure Service where
  config : Config
  /-- The registered sessions: the number for each id. -/
  registry : List (String × Nat) := []
  /-- Every session ever opened, by number. -/
  sessions : List Session := []
  /-- Every playback ever accepted, with the number of its session. -/
  tasks : List (Nat × Task) := []
  counters : Counters := .new

structure Health where
  activeSessions : Nat
  playingSessions : Nat
deriving DecidableEq, Repr

namespace Service

def new (config : Config) : Service := { config }

def update (v : Service) (n : Nat) (f : Session → Session) : Service :=
  { v with sessions := v.sessions.modify n f }

def gauge (v : Service) (n : Nat) : Service :=
  { v with counters := { v.counters with sessions := n } }

/-! ## The registry -/

def find (v : Service) (id : String) : Except ServiceError Nat :=
  match v.registry.lookup id with
  | some n => .ok n
  | none => .error (.sessionNotFound id)

/-- Registers a joined room under an id that is not taken. -/
def openSession (v : Service) (id : String) : Except ServiceError Nat × Service :=
  match v.registry.lookup id with
  | some _ => (.error (.sessionExists id), v)
  | none =>
    let n := v.sessions.length
    let registry := (id, n) :: v.registry
    (.ok n, { v with registry, sessions := v.sessions ++ [Session.new v.config id] }.gauge registry.length)

/-- Takes a session off the registry and stores the gauge, also where there is none. -/
def unregister (v : Service) (id : String) : Option Nat × Service :=
  let registry := v.registry.filter (·.1 ≠ id)
  (v.registry.lookup id, { v with registry }.gauge registry.length)

/-- Cancels the playback of a session and leaves its room. -/
def closeNumber (v : Service) (n : Nat) : Service := v.update n Session.close

/-- Takes a session off the registry, cancels its playback and leaves its room. -/
def closeSession (v : Service) (id : String) : Except ServiceError Unit × Service :=
  match v.unregister id with
  | (none, v) => (.error (.sessionNotFound id), v)
  | (some n, v) => (.ok (), v.closeNumber n)

def drain (v : Service) : List Nat × Service :=
  (v.registry.map Prod.snd, { v with registry := [] })

def shutdown (v : Service) : Service :=
  let (numbers, v) := v.drain
  numbers.foldl closeNumber (v.gauge 0)

def health (v : Service) : Health where
  activeSessions := v.registry.length
  playingSessions :=
    (v.registry.filter fun entry => (v.sessions[entry.2]?.map (·.isPlaying)).getD false).length

/-! ## Playbacks -/

/-- The slot that a playback of a session is begun in. -/
def beginIn (v : Service) (n : Nat) : Option (Nat × Service) :=
  v.sessions[n]?.map fun s =>
    let (slot, s) := s.begin
    (slot, v.update n fun _ => s)

/-- Accepts a playback of a session: the place of its task. -/
def accept (v : Service) (n : Nat) (url : Url) (request : Request) : Option (Nat × Service) :=
  (v.beginIn n).map fun (slot, v) =>
    let task := Task.new v.config slot url request
    (v.tasks.length,
      { v with
        tasks := v.tasks ++ [(n, task)]
        counters := { v.counters with started := v.counters.started + 1 } })

/-- Starts a playback: the place of its task. A request that cannot be tried is refused, and then nothing has
changed. -/
def start (v : Service) (id : String) (request : Request) : Except ServiceError Nat × Service :=
  match v.find id with
  | .error e => (.error e, v)
  | .ok n =>
    match request.validate with
    | .error e => (.error (.playback e), v)
    | .ok url =>
      match v.accept n url request with
      | none => (.error (.sessionNotFound id), v)
      | some (k, v) => (.ok k, v)

def cue (v : Service) (k : Nat) (c : Cue) : Option Service := do
  let (n, t) ← v.tasks[k]?
  let s ← v.sessions[n]?
  let (t, s, counters) ← t.step s v.counters c
  return { v.update n fun _ => s with tasks := v.tasks.set k (n, t), counters }

def cancelTask (v : Service) (k : Nat) : Service :=
  match v.tasks[k]? with
  | some (n, t) => v.update n (·.cancel t.slot)
  | none => v

/-- Cancels the playback of a session. Tells whether there was one. -/
def stop (v : Service) (id : String) : Except ServiceError Bool × Service :=
  match v.find id with
  | .error e => (.error e, v)
  | .ok n =>
    match v.sessions[n]? with
    | none => (.ok false, v)
    | some s => (.ok s.isPlaying, v.update n Session.preempt)

/-! ## Room audio -/

def offer (v : Service) (id : String) (payload : Bytes) : Except ServiceError Bool × Service :=
  match v.find id with
  | .error e => (.error e, v)
  | .ok n =>
    match v.sessions[n]? with
    | none => (.ok false, v)
    | some s =>
      let (offered, audio) := s.audio.offer payload
      (.ok (offered = .queued),
        { v.update n fun s => { s with audio } with counters := v.counters.countOffer offered })

/-- Takes the receiving end of the queue of a session. Tells whether it was there. -/
def takeRoomAudio (v : Service) (id : String) : Except ServiceError Bool × Service :=
  match v.find id with
  | .error e => (.error e, v)
  | .ok n =>
    match v.sessions[n]? with
    | none => (.ok false, v)
    | some s =>
      let (taken, audio) := s.audio.take
      (.ok taken, v.update n fun s => { s with audio })

end Service

end Playout
