import Playout.Proofs.System.Note
import Playout.Service.Basic
import Playout.Session.Call

/-!
# A service at work

A service together with everything that goes on in it at a time: its playbacks, the errands of others in its
sessions, the calls that close tracks and sessions, and the calls to its registry that are not finished.
`System.step` is one move of any of them, and a run is any sequence of moves, so that whatever can be
interleaved is interleaved in some run: a call or a callback of a room is the moves it consists of, wherever
these stand between the moves of a playback.

A move is what happens in one critical section, or without anybody else having to do with it. Stopping is one
move; using a track, pushing samples, playing, closing a track and closing a session take as many as they have
steps; a session leaves the registry in one move, and a call to close it is made in a later one. Whoever has
once got hold of a session may use it at any time, so moves name sessions by their numbers, registered or not.

What is noted of the moves is kept in a log (`System.log`), which no move looks at.
-/

namespace Playout

/-- A call to the registry that is not finished. -/
inductive Pending where
  /-- A playback of a session was asked for and found valid, and is to be begun. -/
  | start (n : Nat) (url : Url) (request : Request)
  /-- The registry was emptied: the gauge is to be stored and these sessions are to be closed. -/
  | store (numbers : List Nat)
  /-- These sessions have left the registry and are to be closed. -/
  | close (numbers : List Nat)
  /-- One of them is closed by this call, and these are to be closed behind it. -/
  | closing (i : Nat) (rest : List Nat)
deriving Repr

/-- A service and what goes on in it, with the numbers of the sessions. -/
structure System where
  service : Service
  errands : List (Nat × Errand) := []
  /-- The calls that close a track or the session. -/
  calls : List (Nat × Session.Call) := []
  pending : List Pending := []
  log : List (Nat × Note) := []

inductive Move where
  | openSession (id : String)
  /-- A session leaves the registry, to be closed. -/
  | unregister (id : String)
  /-- Every session leaves the registry. -/
  | shutdown
  /-- A playback is asked for. -/
  | request (id : String) (request : Request)
  /-- A pending call goes on. -/
  | resume (i : Nat)
  /-- A playback gets a cue. -/
  | play (k : Nat) (cue : Cue)
  /-- The token of a playback is cancelled by whoever waits for it. -/
  | cancel (k : Nat)
  /-- The playback of a session is stopped. -/
  | stop (n : Nat)
  /-- Somebody sets out to close a session. -/
  | close (n : Nat)
  /-- Somebody sets out to close a track of a session. -/
  | closeTrack (n : Nat) (name : String)
  /-- A call that closes goes on. -/
  | proceed (i : Nat) (p : Session.Call.Prompt)
  /-- Somebody sets out to use a track of a session. -/
  | track (n : Nat) (name : String)
  /-- Somebody sets out to push raw samples to a track of a session. -/
  | push (n : Nat) (name : String) (pcm : Bytes)
  /-- An errand gets a cue. -/
  | attend (i : Nat) (cue : Cue)
  /-- Room audio of a session is offered, its receiving end is taken, a payload received, the end dropped. -/
  | offer (n : Nat) (payload : Bytes)
  | take (n : Nat)
  | receive (n : Nat)
  | dropReceiver (n : Nat)
deriving Repr

namespace System

def new (config : Config) : System := { service := .new config }

def update (σ : System) (n : Nat) (f : Session → Session) : System :=
  { σ with service := σ.service.update n f }

def dial (σ : System) (n : Nat) (c : Session.Call) : System :=
  if n < σ.service.sessions.length then { σ with calls := σ.calls ++ [(n, c)] } else σ

/-- A pending call goes on. One that closes a session waits until that is done. -/
def resume (σ : System) (i : Nat) : System :=
  match σ.pending[i]? with
  | some (.start n url request) =>
    match σ.service.accept n url request with
    | some (_, v) => { σ with service := v, pending := σ.pending.set i (.close []) }
    | none => σ
  | some (.store numbers) =>
    { σ with service := σ.service.gauge 0, pending := σ.pending.set i (.close numbers) }
  | some (.close (n :: rest)) =>
    { σ.dial n .shutting with pending := σ.pending.set i (.closing σ.calls.length rest) }
  | some (.closing j rest) =>
    if σ.calls[j]?.any (·.2.isDone) then { σ with pending := σ.pending.set i (.close rest) } else σ
  | some (.close []) => σ
  | none => σ

def play (σ : System) (k : Nat) (cue : Cue) : System :=
  match σ.service.tasks[k]? with
  | none => σ
  | some (n, t) =>
    match σ.service.sessions[n]?, σ.service.cue k cue with
    | some s, some v =>
      { σ with
        service := v
        log := σ.log ++ ((v.tasks[k]?.map fun (_, t') => t.notes s cue t').getD []).map (n, ·) }
    | _, _ => σ

def attend (σ : System) (i : Nat) (cue : Cue) : System :=
  match σ.errands[i]? with
  | none => σ
  | some (n, e) =>
    match (σ.service.sessions[n]?).bind fun s => e.step s σ.service.counters cue with
    | none => σ
    | some (e', s', counters) =>
      { σ with
        service := { σ.service.update n fun _ => s' with counters }
        errands := σ.errands.set i (n, e')
        log := σ.log ++ (e.notes e').map (n, ·) }

def proceed (σ : System) (i : Nat) (p : Session.Call.Prompt) : System :=
  match σ.calls[i]? with
  | none => σ
  | some (n, c) =>
    match (σ.service.sessions[n]?).bind fun s => c.step s p with
    | none => σ
    | some (c', s') => { σ.update n fun _ => s' with calls := σ.calls.set i (n, c') }

/-- One move. A move that cannot be made changes nothing. -/
def step (σ : System) : Move → System
  | .openSession id => { σ with service := (σ.service.openSession id).2 }
  | .unregister id =>
    match σ.service.unregister id with
    | (some n, v) => { σ with service := v, pending := σ.pending ++ [.close [n]] }
    | (none, v) => { σ with service := v }
  | .shutdown =>
    let (numbers, v) := σ.service.drain
    { σ with service := v, pending := σ.pending ++ [.store numbers] }
  | .request id request =>
    match σ.service.find id, request.validate with
    | .ok n, .ok url => { σ with pending := σ.pending ++ [.start n url request] }
    | _, _ => σ
  | .resume i => σ.resume i
  | .play k cue => σ.play k cue
  | .cancel k => { σ with service := σ.service.cancelTask k }
  | .stop n => σ.update n Session.preempt
  | .close n => σ.dial n .shutting
  | .closeTrack n name => σ.dial n (.unlisting name)
  | .proceed i p => σ.proceed i p
  | .track n name =>
    if n < σ.service.sessions.length then { σ with errands := σ.errands ++ [(n, .track name .asking)] }
    else σ
  | .push n name pcm =>
    match σ.service.sessions[n]? with
    | some s => { σ with errands := σ.errands ++ [(n, .push (Push.new s name pcm))] }
    | none => σ
  | .attend i cue => σ.attend i cue
  | .offer n payload =>
    match σ.service.sessions[n]? with
    | some s =>
      let (offered, audio) := s.audio.offer payload
      { σ with
        service :=
          { σ.service.update n fun s => { s with audio } with
            counters := σ.service.counters.countOffer offered } }
    | none => σ
  | .take n => σ.update n fun s => { s with audio := s.audio.take.2 }
  | .receive n => σ.update n fun s => { s with audio := s.audio.receive.2 }
  | .dropReceiver n => σ.update n fun s => { s with audio := s.audio.dropReceiver }

def run (σ : System) (moves : List Move) : System := moves.foldl step σ

end System

/-! ## Short runs -/

/-- Frames of one sample, delivered as soon as they are cut. -/
def Config.terse : Config := { frameMillis := 0, realtimePacing := false }

namespace Move

/-- The `i`th pending call starts a playback. -/
def started (i : Nat) : List Move := [.request "room" { sourceUrl := "http://origin/a.wav" }, .resume i]

/-- A playback that is alone gets the lease, hears two samples, and the room accepts the first. -/
def played (k : Nat) : List Move :=
  [.go, .answered (.ok ⟨200, "audio/wav"⟩), .event (.spec ⟨16000, 1⟩), .event (.samples [7, 8]), .go, .go,
    .published (.ok ()), .go, .recorded].map (.play k)

/-- The second sample is delivered too, and the playback ends. -/
def playedOut (k : Nat) : List Move :=
  [.written (.ok ()), .go, .go, .recorded, .written (.ok ()), .go, .go, .over, .go, .go, .go, .go, .go].map (.play k)

/-- The write is finished, and the playback finds itself stopped and ends. -/
def playedShort (k : Nat) : List Move := [.written (.ok ()), .go, .go, .go, .go, .go, .go, .go].map (.play k)

/-- One playback from its start to its end. -/
def once : List Move := .openSession "room" :: started 0 ++ played 0 ++ playedOut 0

/-- The `i`th call closes a session that has no tracks. -/
def hungUp (i : Nat) : List Move := List.replicate 4 (.proceed i (.cue .go))

end Move

end Playout
