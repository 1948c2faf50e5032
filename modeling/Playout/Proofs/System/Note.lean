import Playout.Session.Push
import Playout.Playback.Task

/-!
# Work in a session and what is noted of it

Two kinds of work go on step by step in a session: playbacks, and the errands of others, who use a track or
push raw samples to one. Of each step it is noted what a later statement may refer to: that a playback got
the lease, what it heard from its decoder, which track the room created for whom, and which frame the room
accepted from whom. Notes are taken from the steps and change nothing.
-/

namespace Playout

/-! ## Errands -/

/-- Work in a session that is no playback. -/
inductive Errand where
  /-- Somebody uses a track. -/
  | track (name : String) (o : Obtain)
  /-- Somebody used a track. -/
  | tracked (name : String) (result : Except DeliveryError Handle)
  /-- Somebody pushes raw samples to a track. -/
  | push (p : Push)
deriving Repr

/-- The next step of an errand. A cue that does not fit leads nowhere. -/
def Errand.step (s : Session) (m : Counters) (e : Errand) (cue : Cue) :
    Option (Errand × Session × Counters) :=
  match e with
  | .track name o =>
    match o.step s name cue with
    | none => none
    | some (.inl o, s) => some (.track name o, s, m)
    | some (.inr result, s) => some (.tracked name result, s, m)
  | .tracked .. => none
  | .push p => (p.step s m cue).map fun (p, s, m) => (.push p, s, m)

/-! ## Notes -/

/-- Something that happened in a session. Playbacks go by the numbers of their slots. -/
inductive Note where
  /-- A playback got the lease. -/
  | acquired (slot : Nat)
  /-- A playback heard a report of its decoder, or that there are no more. -/
  | heard (slot : Nat) (report : Option Event)
  /-- The room created a track for a playback, or for an errand. -/
  | published (writer : Option Nat) (h : Handle)
  /-- The room accepted a frame of a playback, or of an errand. -/
  | recorded (writer : Option Nat) (h : Handle) (frame : Frame)
deriving Repr

/-- What is noted of a step that leads a playback to `t'`. -/
def Task.notes (s : Session) (t : Task) (cue : Cue) (t' : Task) : List Note :=
  match t.stage with
  | .starting | .waiting =>
    match t'.stage with
    | .fetching => [.acquired t.slot]
    | _ => []
  | .listening =>
    match s.isCancelled t.slot, cue with
    | false, .event event => [.heard t.slot (some event)]
    | false, .over => [.heard t.slot none]
    | _, _ => []
  | .obtaining (.publishing _) =>
    match t'.stage with
    | .obtaining (.enlisting h) => [.published (some t.slot) h]
    | _ => []
  | .writing _ false =>
    match t'.stage, t.track, t.todo with
    | .writing _ true, some h, frame :: _ => [.recorded (some t.slot) h frame]
    | _, _, _ => []
  | _ => []

/-- What is noted of a step that leads a push to `p'`. -/
def Push.notes (p p' : Push) : List Note :=
  match p.stage, p'.stage with
  | .obtaining (.publishing _), .obtaining (.enlisting h) => [.published none h]
  | .writing false, .writing true =>
    match p.track, p.todo with
    | some h, frame :: _ => [.recorded none h frame]
    | _, _ => []
  | _, _ => []

/-- What is noted of a step that leads an errand to `e'`. -/
def Errand.notes : (e e' : Errand) → List Note
  | .track _ (.publishing _), .track _ (.enlisting h) => [.published none h]
  | .push p, .push p' => p.notes p'
  | _, _ => []

/-! ## What notes tell -/

namespace Note

/-- The playback that a note is about. -/
def subject : Note → Option Nat
  | .acquired slot => some slot
  | .heard slot _ => some slot
  | .published writer _ => writer
  | .recorded writer .. => writer

def acquirer : Note → Option Nat
  | .acquired slot => some slot
  | _ => none

/-- The playback that delivered something to a track: had it created, or wrote a frame to it. -/
def deliverer : Note → Option Nat
  | .published writer _ => writer
  | .recorded writer .. => writer
  | _ => none

def player : Note → Option Nat
  | .recorded writer .. => writer
  | _ => none

def heardBy (slot : Nat) : Note → Option (Option Event)
  | .heard slot' report => if slot' = slot then some report else none
  | _ => none

def frameBy (slot : Nat) : Note → Option Frame
  | .recorded (some slot') _ frame => if slot' = slot then some frame else none
  | _ => none

def frameOn (h : Handle) : Note → Option Frame
  | .recorded _ h' frame => if h' = h then some frame else none
  | _ => none

variable {note : Note} {i : Nat}

theorem subject_of_deliverer (h : note.deliverer = some i) : note.subject = some i := by
  cases note <;> first | exact h | cases h

theorem deliverer_of_player (h : note.player = some i) : note.deliverer = some i := by
  cases note <;> first | exact h | cases h

theorem heardBy_of_subject (h : note.subject ≠ some i) : note.heardBy i = none := by
  cases note with
  | heard slot report => exact if_neg fun heq => h (congrArg some heq)
  | _ => rfl

theorem frameBy_of_subject (h : note.subject ≠ some i) : note.frameBy i = none := by
  cases note with
  | recorded writer k frame =>
    cases writer with
    | none => rfl
    | some slot => exact if_neg fun heq => h (congrArg some heq)
  | _ => rfl

theorem recorded_of_frameBy {frame : Frame} (h : note.frameBy i = some frame) :
    ∃ k, note = .recorded (some i) k frame := by
  unfold frameBy at h
  split at h
  · split at h
    · next heq =>
      obtain rfl := Option.some.inj h
      exact ⟨_, by rw [heq]⟩
    · cases h
  · cases h

theorem filterMap_of_subject {α : Type} {view : Note → Option α} {notes : List Note}
    (hview : ∀ note, note.subject = none → view note = none) (h : ∀ note ∈ notes, note.subject = none) :
    notes.filterMap view = [] :=
  List.filterMap_eq_nil_iff.2 fun note hmem => hview note (h note hmem)

theorem acquirer_of_subject (h : note.subject = none) : note.acquirer = none := by
  cases note <;> first | rfl | cases h

theorem player_of_subject (h : note.subject = none) : note.player = none := by
  cases note <;> first | exact h | rfl

theorem deliverer_of_subject (h : note.subject = none) : note.deliverer = none := by
  cases note <;> first | exact h | rfl

end Note

theorem Task.subject_of_mem_notes {s : Session} {t t' : Task} {cue : Cue} {note : Note}
    (h : note ∈ t.notes s cue t') : note.subject = some t.slot := by
  unfold notes at h
  split at h
  · split at h <;> simp_all [Note.subject]
  · split at h <;> simp_all [Note.subject]
  · split at h <;> simp_all [Note.subject]
  · split at h <;> simp_all [Note.subject]
  · split at h <;> simp_all [Note.subject]
  · simp at h

theorem Errand.subject_of_mem_notes {e e' : Errand} {note : Note} (h : note ∈ e.notes e') :
    note.subject = none := by
  unfold notes at h
  split at h
  · obtain rfl := List.mem_singleton.1 h
    rfl
  · unfold Push.notes at h
    split at h
    · obtain rfl := List.mem_singleton.1 h
      rfl
    · split at h
      · obtain rfl := List.mem_singleton.1 h
        rfl
      · cases h
    · cases h
  · cases h

end Playout
