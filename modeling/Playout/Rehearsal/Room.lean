import Playout.Rehearsal.World

/-!
# Calls to rooms

A room that follows a script does what it says. A room behind a media server publishes and writes until it is
left. What the script of a room lets happen inside a call may use the session again, and so call the room again
before the first call returns. Each request for a track takes an entry of the script, so this ends.
-/

namespace Playout.Rehearsal

namespace World

/-- Does what a script says, except for using a track. -/
def perform (w : World) (n : Nat) : Action → World
  | .stop => w.update n Session.preempt
  | .close => w.update n Session.close
  | .shutdown => { w with service := w.service.shutdown }
  | .closeTrack name => w.update n (·.closeTrack name)
  | .track _ => w
  | .play request =>
    match w.service.sessions[n]? with
    | none => w.keepTicket none
    | some s =>
      match w.start s.id request with
      | (.ok k, w) => w.keepTicket (some k)
      | (.error _, w) => w.keepTicket none

def isLeft (w : World) (n : Nat) : Bool :=
  (w.service.sessions[n]?).all fun s => s.room.disconnects ≠ 0

/-- The room of a session takes a request: its number and what becomes of it. -/
def request (w : World) (n : Nat) : (Nat × Publishing) × World :=
  match w.rooms[n]? with
  | some (.scripted room) =>
    (room.request.1, { w with rooms := w.rooms.set n (.scripted room.request.2) })
  | _ => ((0, if w.isLeft n then .fail .roomClosed else .succeed), w)

theorem request_act {w w' : World} {n number : Nat} {action : Action}
    (h : w.request n = ((number, .act action), w')) :
    (w'.script n).publish.length < (w.script n).publish.length := by
  unfold request at h
  split at h
  · next room hr =>
    simp only [ScriptedRoom.request, Prod.mk.injEq] at h
    obtain ⟨⟨_, ha⟩, rfl⟩ := h
    have hn : n < w.rooms.length := (List.getElem?_eq_some_iff.1 hr).1
    simp only [script, hr, List.getElem?_set_self hn]
    cases hp : room.publish with
    | nil => simp [hp] at ha
    | cons p ps => simp
  · split at h <;> simp at h

/-- The session publishes a track that was asked for under a number, and enlists it. -/
def enlistNew (w : World) (n : Nat) (name : String) (number : Nat) :
    Except DeliveryError Handle × World :=
  match w.service.sessions[n]? with
  | none => (.error .roomClosed, w)
  | some s =>
    let (h, s) := s.publish name
    let (result, s) := s.enlist name h
    (result, (w.update n fun _ => s).created n number)

mutual

/-- Asks the room of a session for a track: its answer and the number of the request. -/
def askRoom (w : World) (n : Nat) : Except DeliveryError Unit × Nat × World :=
  match _h : w.request n with
  | ((number, .succeed), w) => (.ok (), number, w)
  | ((number, .fail cause), w) => (.error cause, number, w)
  | ((number, .act (.track name)), w') => (.ok (), number, (obtain w' n name).2)
  | ((number, .act action), w') => (.ok (), number, w'.perform n action)
termination_by ((w.script n).publish.length, 0)
decreasing_by
  have := request_act _h
  exact Prod.Lex.left _ _ this

def obtain (w : World) (n : Nat) (name : String) : Except DeliveryError Handle × World :=
  match w.service.sessions[n]? with
  | none => (.error .roomClosed, w)
  | some s =>
    match s.lookup name with
    | .found h => (.ok h, w)
    | .refused => (.error .roomClosed, w)
    | .missing =>
      match askRoom w n with
      | (.error cause, _, w) => (.error cause, w)
      | (.ok (), number, w) => w.enlistNew n name number
termination_by ((w.script n).publish.length, 1)

end

def act (w : World) (n : Nat) : Action → World
  | .track name => (w.obtain n name).2
  | action => w.perform n action

/-- What a track does about the next frame. -/
inductive Verdict where
  | refuse (cause : DeliveryError)
  | wait
  | accept (action : Option Action)

/-- What the script of a room says about the next frame of a track. -/
def judgeScripted (w : World) (n : Nat) (s : Session) (h : Handle) : Verdict × World :=
  let script := (w.script n).scriptOf h
  let written := (s.room.framesOf h).length
  if s.room.isClosed h then (.refuse (.trackClosed (s.room.nameOf h)), w)
  else
    match script.failAt.filter (·.1 = written), script.interludes.lookup written with
    | some (_, reason), _ => (.refuse (.io reason), w)
    | none, none => (.accept none, w)
    | none, some (.act action) => (.accept (some action), w)
    | none, some .block =>
      if (w.script n).releases = 0 then (.wait, w)
      else (.accept none, w.updateScript n fun r => { r with releases := r.releases - 1 })

/-- A packet is on its way. The media server gets those that are sent to it. -/
def deliver (w : World) (server : Rtp.Endpoint) (packet : Rtp.Packet) : World :=
  if server = w.server then { w with sent := w.sent ++ [packet] } else w

/-- Asks a track of a session to write a frame. -/
def judge (w : World) (n : Nat) (h : Handle) (frame : Frame) : Verdict × World :=
  match w.service.sessions[n]?, w.rooms[n]? with
  | none, _ => (.refuse .roomClosed, w)
  | some s, some (.remote server streams) =>
    match (Rtp.Room.mk s.room streams).write w.link h frame with
    | (.error cause, room) =>
      (.refuse cause, w.updateVenue n fun _ => .remote server room.streams)
    | (.ok packet, room) =>
      (.accept none, (w.updateVenue n fun _ => .remote server room.streams).deliver server packet)
  | some s, _ => w.judgeScripted n s h

/-- Does what the script says behind an accepted frame. -/
def actAfter (w : World) (n : Nat) : Option Action → World
  | none => w
  | some action => w.act n action

/-- Writes a frame to a track of a session without anybody counting it: the result, unless the room lets it
wait for good. -/
def writeTo (w : World) (n : Nat) (h : Handle) (frame : Frame) :
    Option (Except DeliveryError Unit) × World :=
  match w.judge n h frame with
  | (.refuse cause, w) => (some (.error cause), w)
  | (.wait, w) => (none, w)
  | (.accept action, w) =>
    let w := w.update n fun s => { s with room := s.room.record h frame }
    (some (.ok ()), w.actAfter n action)

/-- Whether a second request for the lease waits while a first one holds it, and gets it afterwards. -/
def tryLease (s : Session) : Bool × Bool :=
  let first := s.nextId
  let second := first + 1
  let both := (s.lease.request first).request second
  (both.holder ≠ some second, (both.leave first).holder = some second)

/-! ## Pushing audio -/

def cuePush (w : World) (n : Nat) (p : Push) (cue : Cue) : Option (Push × World) := do
  let s ← w.service.sessions[n]?
  let (p, s, counters) ← p.step s w.service.counters cue
  let w := w.update n fun _ => s
  return (p, { w with service := { w.service with counters } })

/-- The next step of a push on a session, unless the room lets it wait. -/
def advancePush (w : World) (n : Nat) (p : Push) : Option (Push × World) :=
  match p.stage, p.track with
  | .obtaining (.publishing _), _ =>
    match w.askRoom n with
    | (.error cause, _, w) => w.cuePush n p (.published (.error cause))
    | (.ok (), number, w) =>
      (w.cuePush n p (.published (.ok ()))).map fun (p, w) =>
        (p, w.created n number)
  | .writing false, some h =>
    match w.judge n h (p.todo.headD []) with
    | (.refuse cause, w) => w.cuePush n p (.written (.error cause))
    | (.wait, _) => none
    | (.accept action, w) =>
      (w.cuePush n p .recorded).map fun (p, w) => (p, w.actAfter n action)
  | .writing true, _ => w.cuePush n p (.written (.ok ()))
  | _, _ => w.cuePush n p .go

/-- Up to `steps` steps of a push. -/
def runPush (w : World) (n : Nat) (p : Push) : (steps : Nat) → Push × World
  | 0 => (p, w)
  | steps + 1 =>
    match w.advancePush n p with
    | none => (p, w)
    | some (p, w) => runPush w n p steps

/-- Pushes raw samples to a track of a session: the result, unless the room lets it wait for good. -/
def push (w : World) (n : Nat) (name : String) (pcm : Bytes) :
    Option (Except DeliveryError Nat) × World :=
  match w.service.sessions[n]? with
  | none => (some (.error .roomClosed), w)
  | some s =>
    let p := Push.new s name pcm
    let (p, w) := w.runPush n p (3 * p.todo.length + 3)
    (p.result?, w)

/-- Pushes raw samples to a track of a registered session: the result, unless the room lets it wait for
good. -/
def pushTo (w : World) (id name : String) (pcm : Bytes) :
    Option (Except ServiceError Nat) × World :=
  match w.service.find id with
  | .error e => (some (.error e), w)
  | .ok n =>
    let (result, w) := w.push n name pcm
    (result.map (·.mapError .delivery), w)

end World

end Playout.Rehearsal
