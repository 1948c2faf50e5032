import Mathlib
import Playout.Proofs.Pcm.Frames
import Playout.Proofs.System.Handling

/-!
# What a push does to its track

A push obtains one track, offers its frames to it one after another, each when the one before it is written, and stops
at the first failure. `Push.deeds` is what it does in a step, `Push.Progress` a push with all it has done so far. At
each of its steps a push may find a session to which anything has happened since the step before (`Push.Moment`); what
it has done is told by where it stands all the same (`Push.Account`), and unless it waits it comes nearer to its end
(`Push.Transition.stepsLeft`).
-/

namespace Playout

theorem Obtain.Transition.ne_written {s s' : Session} {name : String} {o : Obtain} {cue : Cue}
    {r : Obtain ⊕ Except DeliveryError Handle} (h : Obtain.Transition s name o cue r s')
    (outcome : Except DeliveryError Unit) : cue ≠ .written outcome := by
  cases h <;> exact Cue.noConfusion

theorem Obtain.Transition.of_unpublished {s s' : Session} {name : String} {o : Obtain} {cue : Cue}
    {r : Obtain ⊕ Except DeliveryError Handle} (h : Obtain.Transition s name o cue r s') {cause : DeliveryError}
    (hcue : cue = .published (.error cause)) : r = .inr (.error cause) := by
  cases h with
  | unpublished =>
    cases hcue
    rfl
  | _ => cases hcue

/-- How many steps of a request are left at most, apart from those that let it wait. -/
def Obtain.stepsLeft : Obtain → ℕ
  | .asking => 3
  | .publishing _ => 2
  | .enlisting _ => 1

theorem Obtain.Transition.stepsLeft {s s' : Session} {name : String} {o o' : Obtain} {cue : Cue}
    (h : Obtain.Transition s name o cue (.inl o') s') :
    o'.stepsLeft < o.stepsLeft ∨ cue = .suspended ∧ o'.stepsLeft = o.stepsLeft := by
  cases h with
  | missing | published => exact .inl (Nat.lt_succ_self _)
  | suspend => exact .inr ⟨rfl, rfl⟩

namespace Push

/-! ## Deeds -/

inductive Deed where
  /-- The push has got the track to write to, or failed to get one. -/
  | obtained (h : Handle)
  | unobtained (cause : DeliveryError)
  /-- A track is to write a frame, and accepts it, or fails. -/
  | offered (h : Handle) (frame : Frame)
  | accepted (h : Handle) (frame : Frame)
  | refused (cause : DeliveryError)
deriving DecidableEq, Repr

namespace Deed

def write (h : Handle) (frame : Frame) : List Deed := [.offered h frame, .accepted h frame]

def acceptedOn (k : Handle) : Deed → Option Frame
  | .accepted h frame => if h = k then some frame else none
  | _ => none

end Deed

/-- The track that a push writes to, and the frame that is to be written. -/
def atHand (p : Push) : Option (Handle × Frame) := p.track.bind fun h => p.todo.head?.map (h, ·)

def offers (p : Push) : List Deed := p.atHand.toList.map fun (h, frame) => .offered h frame

/-- What a push does in the step that leads it to `p'`. -/
def deeds (p p' : Push) : List Deed :=
  match p.stage, p'.stage with
  | .obtaining _, .writing _ => p'.track.toList.map .obtained ++ p'.offers
  | .obtaining _, .done (.error cause) => [.unobtained cause]
  | .writing false, .writing true => p.atHand.toList.map fun (h, frame) => .accepted h frame
  | .writing _, .done (.error cause) => [.refused cause]
  | .counting, .writing _ => p'.offers
  | _, _ => []

variable {s s' : Session} {m m' : Counters} {p p' : Push} {cue : Cue}

/-- Deeds are done: tracks have accepted what they are said to accept and nothing else, the track that was obtained is
on the map, the push has failed if the room has, and with the cause that the room gave, or in a closed session. -/
structure Done (s : Session) (name : String) (cue : Cue) (s' : Session) (deeds : List Deed) : Prop where
  frames : ∀ k, s'.room.framesOf k = s.room.framesOf k ++ deeds.filterMap (Deed.acceptedOn k)
  obtained : ∀ h, .obtained h ∈ deeds → (Track.normalize name, h) ∈ s'.tracks
  unpublished : ∀ cause, cue = .published (.error cause) → deeds = [.unobtained cause]
  unobtained : ∀ cause, .unobtained cause ∈ deeds →
    cue = .published (.error cause) ∨ cause = .roomClosed ∧ s.closed = true
  refused : ∀ cause, .refused cause ∈ deeds ↔ cue = .written (.error cause)

theorem offers_eq (p : Push) : p.offers = [] ∨ ∃ h frame, p.offers = [.offered h frame] := by
  unfold offers
  cases p.atHand with
  | none => exact .inl rfl
  | some pair => exact .inr ⟨pair.1, pair.2, rfl⟩

theorem Transition.done (ht : Transition s m p cue p' s' m') : Done s p.trackName cue s' (p.deeds p') := by
  cases ht with
  | @obtaining _ o' _ _ hstage ho =>
    have hdeeds : p.deeds { p with stage := .obtaining o' } = [] := by simp [deeds, hstage]
    have hcue : ∀ cause, cue ≠ .published (.error cause) := fun cause hcue => by cases ho.of_unpublished hcue
    rw [hdeeds]
    constructor <;> simp [ho.framesOf, hcue, ho.ne_written]
  | @unobtained _ _ cause _ hstage ho =>
    have hdeeds : p.deeds { p with stage := .done (.error cause) } = [.unobtained cause] := by simp [deeds, hstage]
    have hcue : ∀ given, cue = .published (.error given) → cause = given := by
      intro given hcue
      cases ho.of_unpublished hcue
      rfl
    rw [hdeeds]
    constructor <;> simp [ho.framesOf, Deed.acceptedOn, ho.of_error, ho.ne_written]
    exact hcue
  | @obtained _ _ h _ hstage ho =>
    have hdeeds : p.deeds { p with track := some h, stage := .writing false } =
        .obtained h :: offers { p with track := some h, stage := .writing false } := by
      simp [deeds, hstage]
    have hcue : ∀ cause, cue ≠ .published (.error cause) := fun cause hcue => by cases ho.of_unpublished hcue
    rw [hdeeds]
    rcases offers_eq { p with track := some h, stage := .writing false } with heq | ⟨k, frame, heq⟩ <;> rw [heq] <;>
      constructor <;> simp [ho.framesOf, ho.mem_of_ok, Deed.acceptedOn, hcue, ho.ne_written]
  | @recorded h frame _ hstage htrack htodo hopen =>
    have hdeeds : p.deeds { p with stage := .writing true } = [.accepted h frame] := by
      simp [deeds, atHand, hstage, htrack, htodo]
    rw [hdeeds]
    refine ⟨?_, ?_, ?_, ?_, ?_⟩
    · intro k
      rw [Room.framesOf_record frame hopen]
      by_cases hk : h = k <;> simp [Deed.acceptedOn, hk]
    all_goals simp
  | @unwritten cause hstage =>
    have hdeeds : p.deeds { p with stage := .done (.error cause) } = [.refused cause] := by simp [deeds, hstage]
    rw [hdeeds]
    constructor <;> simp [Deed.acceptedOn]
    exact fun _ => eq_comm
  | written hstage =>
    have hdeeds : p.deeds { p with stage := .counting } = [] := by simp [deeds, hstage]
    rw [hdeeds]
    constructor <;> simp
  | counted hstage =>
    have hdeeds : ∀ p' : Push, p'.stage = .writing false → p.deeds p' = p'.offers := by
      intro p' hstage'
      simp [deeds, hstage, hstage']
    rw [hdeeds _ rfl]
    rcases offers_eq _ with heq | ⟨k, frame, heq⟩ <;> rw [heq] <;> constructor <;> simp [Deed.acceptedOn]
  | completed hstage =>
    have hdeeds : p.deeds { p with todo := [], stage := .done (.ok p.total) } = [] := by simp [deeds, hstage]
    rw [hdeeds]
    constructor <;> simp

/-! ## The way to the end -/

def stepsLeft (p : Push) : ℕ :=
  match p.stage with
  | .obtaining o => 3 * p.todo.length + 3 + o.stepsLeft
  | .writing false => 3 * p.todo.length + 3
  | .writing true => 3 * p.todo.length + 2
  | .counting => 3 * p.todo.length + 1
  | .done _ => 0

theorem Transition.stepsLeft (ht : Transition s m p cue p' s' m') :
    p'.stepsLeft < p.stepsLeft ∨ cue = .suspended ∧ p'.stepsLeft = p.stepsLeft := by
  cases ht with
  | obtaining hstage ho =>
    simp only [Push.stepsLeft, hstage]
    rcases ho.stepsLeft with hlt | ⟨hcue, heq⟩
    · left
      omega
    · exact .inr ⟨hcue, by rw [heq]⟩
  | unobtained hstage | unwritten hstage | recorded hstage | written hstage | completed hstage =>
    left
    simp [Push.stepsLeft, hstage]
  | @obtained o _ _ _ hstage =>
    left
    have hpos : 0 < o.stepsLeft := by cases o <;> exact Nat.succ_pos _
    simp only [Push.stepsLeft, hstage]
    omega
  | counted hstage htodo =>
    left
    simp only [Push.stepsLeft, hstage, htodo, List.length_cons]
    omega

/-! ## All deeds of a push -/

/-- What a push finds when it goes on: a session to which anything may have happened since, and a cue. -/
structure Moment where
  session : Session
  counters : Counters
  cue : Cue

/-- A push and what it has done so far. -/
structure Progress where
  push : Push
  deeds : List Deed := []

namespace Progress

def new (s : Session) (name : String) (pcm : Bytes) : Progress := { push := Push.new s name pcm }

/-- A push goes on if the cue fits. -/
def step (x : Progress) (found : Moment) : Progress :=
  match x.push.step found.session found.counters found.cue with
  | none => x
  | some (p, _, _) => ⟨p, x.deeds ++ x.push.deeds p⟩

def run (x : Progress) (moments : List Moment) : Progress := moments.foldl step x

end Progress

/-- What a push has done that has got a track and written these frames to it. -/
def written (h : Handle) (frames : List Frame) : List Deed := .obtained h :: frames.flatMap (Deed.write h)

theorem written_concat (h : Handle) (frames : List Frame) (frame : Frame) :
    written h (frames ++ [frame]) = written h frames ++ [.offered h frame] ++ [.accepted h frame] := by
  simp [written, Deed.write]

/-- What a push of frames has done by the time it stands somewhere. -/
inductive Account (name : String) (total : Nat) (frames : List Frame) : Push → List Deed → Prop
  | obtaining (o : Obtain) : Account name total frames ⟨name, total, none, frames, .obtaining o⟩ []
  | unobtained (cause : DeliveryError) :
      Account name total frames ⟨name, total, none, frames, .done (.error cause)⟩ [.unobtained cause]
  | offering {h : Handle} {gone : List Frame} {frame : Frame} {rest : List Frame}
      (hsplit : frames = gone ++ frame :: rest) :
      Account name total frames ⟨name, total, some h, frame :: rest, .writing false⟩
        (written h gone ++ [.offered h frame])
  | refused {h : Handle} {gone : List Frame} {frame : Frame} {rest : List Frame} (cause : DeliveryError)
      (hsplit : frames = gone ++ frame :: rest) :
      Account name total frames ⟨name, total, some h, frame :: rest, .done (.error cause)⟩
        (written h gone ++ [.offered h frame] ++ [.refused cause])
  | accepted {h : Handle} {gone : List Frame} {frame : Frame} {rest : List Frame} {stage : Stage}
      (hstage : stage = .writing true ∨ stage = .counting) (hsplit : frames = gone ++ frame :: rest) :
      Account name total frames ⟨name, total, some h, frame :: rest, stage⟩ (written h (gone ++ [frame]))
  | completed (h : Handle) :
      Account name total frames ⟨name, total, some h, [], .done (.ok total)⟩ (written h frames)

namespace Account

variable {name : String} {total : Nat} {frames : List Frame} {log : List Deed}

theorem step (ha : Account name total frames p log) (hframes : frames ≠ []) (ht : Transition s m p cue p' s' m') :
    Account name total frames p' (log ++ p.deeds p') := by
  cases ha with
  | obtaining o =>
    cases ht with
    | obtaining => exact .obtaining _
    | unobtained => exact .unobtained _
    | @obtained _ _ h =>
      obtain ⟨frame, rest, rfl⟩ := List.exists_cons_of_ne_nil hframes
      have hsplit : frame :: rest = [] ++ frame :: rest := rfl
      exact .offering hsplit
    | _ hstage => cases hstage
  | @offering h gone frame rest hsplit =>
    cases ht with
    | recorded _ htrack htodo =>
      cases htrack
      cases htodo
      show Account _ _ _ _ (written h gone ++ [.offered h frame] ++ [.accepted h frame])
      rw [← written_concat]
      exact .accepted (.inl rfl) hsplit
    | unwritten => exact .refused _ hsplit
    | _ hstage => cases hstage
  | @accepted h gone frame rest stage hat hsplit =>
    rcases hat with rfl | rfl
    · cases ht with
      | written =>
        show Account _ _ _ _ (written h (gone ++ [frame]) ++ [])
        rw [List.append_nil]
        exact .accepted (.inr rfl) hsplit
      | _ hstage => cases hstage
    · cases ht with
      | counted _ htodo =>
        cases htodo
        refine .offering ?_
        rw [hsplit, List.append_assoc]
        rfl
      | completed _ htodo =>
        cases htodo
        show Account _ _ _ _ (written h (gone ++ [frame]) ++ [])
        rw [List.append_nil, ← hsplit]
        exact .completed h
      | _ hstage => cases hstage
  | unobtained | refused | completed =>
    cases ht with
    | _ hstage => cases hstage

theorem step_progress {x : Progress} (ha : Account name total frames x.push x.deeds) (hframes : frames ≠ [])
    (found : Moment) : Account name total frames (x.step found).push (x.step found).deeds := by
  unfold Progress.step
  split
  · exact ha
  · next heq => exact ha.step hframes (transition_of_step heq)

theorem run_progress {x : Progress} (ha : Account name total frames x.push x.deeds) (hframes : frames ≠ [])
    (moments : List Moment) : Account name total frames (x.run moments).push (x.run moments).deeds := by
  induction moments generalizing x with
  | nil => exact ha
  | cons found moments ih => exact ih (ha.step_progress hframes found)

theorem trackName (ha : Account name total frames p log) : p.trackName = name := by
  cases ha <;> rfl

theorem of_ok {count : Nat} (ha : Account name total frames p log) (hresult : p.result? = some (.ok count)) :
    count = total ∧ ∃ h, log = written h frames := by
  cases ha with
  | completed h =>
    cases hresult
    exact ⟨rfl, h, rfl⟩
  | accepted hstage => rcases hstage with rfl | rfl <;> cases hresult
  | _ => cases hresult

theorem of_error {cause : DeliveryError} (ha : Account name total frames p log)
    (hresult : p.result? = some (.error cause)) :
    log = [.unobtained cause] ∨ ∃ h gone frame rest, frames = gone ++ frame :: rest ∧
      log = written h gone ++ [.offered h frame] ++ [.refused cause] := by
  cases ha with
  | unobtained =>
    cases hresult
    exact .inl rfl
  | @refused h gone frame rest _ hsplit =>
    cases hresult
    exact .inr ⟨h, gone, frame, rest, hsplit, rfl⟩
  | accepted hstage => rcases hstage with rfl | rfl <;> cases hresult
  | _ => cases hresult

theorem written_prefix (h : Handle) (gone rest : List Frame) : written h gone <+: written h (gone ++ rest) := by
  rw [written, written, List.flatMap_append]
  exact List.prefix_append _ _

theorem of_unfinished (ha : Account name total frames p log) (hresult : p.result? = none) :
    log = [] ∨ ∃ h, log <+: written h frames := by
  cases ha with
  | obtaining => exact .inl rfl
  | @offering h gone frame rest hsplit =>
    refine .inr ⟨h, (List.prefix_append _ [.accepted h frame]).trans ?_⟩
    rw [← written_concat, hsplit, List.append_cons gone frame rest]
    exact written_prefix h _ rest
  | @accepted h gone frame rest stage _ hsplit =>
    refine .inr ⟨h, ?_⟩
    rw [hsplit, List.append_cons gone frame rest]
    exact written_prefix h _ rest
  | _ => cases hresult

/-- A push that is not finished can go on in any session, and need not fail unless its track is closed. -/
theorem exists_cue (ha : Account name total frames p log) (hresult : p.result? = none) (s : Session) (m : Counters) :
    ∃ cue, (p.step s m cue).isSome ∧ cue ≠ .suspended ∧ (∀ cause, cue ≠ .published (.error cause)) ∧
      ∀ cause, cue = .written (.error cause) → ∃ h, p.track = some h ∧ s.room.isClosed h = true := by
  cases ha with
  | obtaining o =>
    cases o with
    | asking =>
      refine ⟨.go, ?_, by simp⟩
      simp only [Push.step, Obtain.step]
      cases s.lookup name <;> rfl
    | publishing => exact ⟨.published (.ok ()), rfl, by simp⟩
    | enlisting h =>
      refine ⟨.go, ?_, by simp⟩
      simp only [Push.step, Obtain.step]
      cases (s.enlist name h).1 <;> rfl
  | @offering h =>
    cases hclosed : s.room.isClosed h with
    | false => exact ⟨.recorded, by simp [Push.step, hclosed], by simp⟩
    | true => exact ⟨.written (.error .roomClosed), rfl, by simp, by simp, fun cause _ => ⟨h, rfl, hclosed⟩⟩
  | @accepted h gone frame rest stage hstage =>
    rcases hstage with rfl | rfl
    · exact ⟨.written (.ok ()), rfl, by simp⟩
    · refine ⟨.go, ?_, by simp⟩
      cases rest <;> rfl
  | _ => cases hresult

end Account

theorem step_of_result {result : Except DeliveryError Nat} (h : p.result? = some result) (s : Session) (m : Counters)
    (cue : Cue) : p.step s m cue = none := by
  unfold result? at h
  split at h
  · next hstage => simp only [step, hstage]
  · cases h

theorem Progress.run_of_result {x : Progress} {result : Except DeliveryError Nat} (h : x.push.result? = some result)
    (more : List Moment) : x.run more = x := by
  induction more with
  | nil => rfl
  | cons found more ih =>
    have hstep : x.step found = x := by rw [Progress.step, step_of_result h]
    rw [run, List.foldl_cons, hstep]
    exact ih

theorem result_new_of_nil {pcm : Bytes} (h : Pcm.ofLittleEndian pcm = []) (s : Session) (name : String) :
    (new s name pcm).result? = some (.ok 0) := by
  simp [result?, new, h]

theorem Progress.run_of_nil {pcm : Bytes} (h : Pcm.ofLittleEndian pcm = []) (s : Session) (name : String)
    (moments : List Moment) : (Progress.new s name pcm).run moments = Progress.new s name pcm :=
  run_of_result (result_new_of_nil h s name) moments

theorem account_run {s : Session} (hsize : 0 < s.frameSamples) {pcm : Bytes} (h : Pcm.ofLittleEndian pcm ≠ [])
    (name : String) (moments : List Moment) {x : Progress} (hx : (Progress.new s name pcm).run moments = x) :
    Account name (Pcm.ofLittleEndian pcm).length (Pcm.pieces s.frameSamples (Pcm.ofLittleEndian pcm)) x.push
      x.deeds := by
  have hpieces : Pcm.pieces s.frameSamples (Pcm.ofLittleEndian pcm) ≠ [] := by
    rw [Pcm.pieces_of_ne_nil hsize h]
    exact List.cons_ne_nil _ _
  rw [← hx]
  refine Account.run_progress ?_ hpieces moments
  show Account _ _ _ (new s name pcm) []
  rw [new, if_neg h]
  exact .obtaining _

/-- **A push writes the pieces of its samples in order, to one track, up to the first failure.** A piece is offered when
the one before it was accepted. The result is the number of samples, or the cause of the failure. Until it is finished a
step can be taken. -/
theorem writes_pieces_in_order (s : Session) (hsize : 0 < s.frameSamples) (name : String) (pcm : Bytes)
    {samples : List Sample} (hsamples : Pcm.ofLittleEndian pcm = samples) {pieces : List Frame}
    (hpieces : Pcm.pieces s.frameSamples samples = pieces) (moments : List Moment) {x : Progress}
    (hx : (Progress.new s name pcm).run moments = x) :
    -- the pieces
    (pieces.flatten = samples ∧ (∀ piece ∈ pieces, piece ≠ [] ∧ piece.length ≤ s.frameSamples) ∧
      ∀ piece ∈ pieces.dropLast, piece.length = s.frameSamples) ∧
    -- without samples nothing is done
    (samples = [] → x = Progress.new s name pcm ∧ x.push.result? = some (.ok 0) ∧ x.deeds = []) ∧
    -- all that has been done by now
    (samples ≠ [] →
      (∀ count, x.push.result? = some (.ok count) → count = samples.length ∧ ∃ h, x.deeds = written h pieces) ∧
      (∀ cause, x.push.result? = some (.error cause) →
        x.deeds = [.unobtained cause] ∨ ∃ h gone frame rest, pieces = gone ++ frame :: rest ∧
          x.deeds = written h gone ++ [.offered h frame] ++ [.refused cause]) ∧
      (x.push.result? = none → (x.deeds = [] ∨ ∃ h, x.deeds <+: written h pieces) ∧
        ∀ s m, ∃ cue, (x.push.step s m cue).isSome ∧ cue ≠ .suspended ∧ (∀ cause, cue ≠ .published (.error cause)) ∧
          ∀ cause, cue = .written (.error cause) → ∃ h, x.push.track = some h ∧ s.room.isClosed h = true)) ∧
    -- a result is final
    (∀ result, x.push.result? = some result → ∀ more, x.run more = x) ∧
    -- a step does what it is said to do, and leaves fewer steps to do unless it waits
    ∀ found p' s' m', x.push.step found.session found.counters found.cue = some (p', s', m') →
      (x.step found).push = p' ∧ (x.step found).deeds = x.deeds ++ x.push.deeds p' ∧
        Done found.session name found.cue s' (x.push.deeds p') ∧
        (p'.stepsLeft < x.push.stepsLeft ∨ found.cue = .suspended ∧ p'.stepsLeft = x.push.stepsLeft) := by
  subst hsamples hpieces
  refine ⟨⟨Pcm.flatten_pieces hsize _, ?_, fun piece => Pcm.length_of_mem_dropLast_pieces hsize⟩, ?_, ?_, ?_, ?_⟩
  · exact fun piece hmem => ⟨Pcm.ne_nil_of_mem_pieces hsize hmem, Pcm.length_of_mem_pieces hsize hmem⟩
  · intro hnil
    rw [Progress.run_of_nil hnil] at hx
    subst hx
    exact ⟨rfl, result_new_of_nil hnil s name, rfl⟩
  · intro hne
    have ha := account_run hsize hne name moments hx
    exact ⟨fun count => ha.of_ok, fun cause => ha.of_error, fun hnone => ⟨ha.of_unfinished hnone, ha.exists_cue hnone⟩⟩
  · exact fun result => Progress.run_of_result
  · intro found p' s' m' hstep
    have hname : x.push.trackName = name := by
      by_cases h : Pcm.ofLittleEndian pcm = []
      · rw [← hx, Progress.run_of_nil h]
        rfl
      · exact (account_run hsize h name moments hx).trackName
    have ht := transition_of_step hstep
    have hdone := ht.done
    rw [hname] at hdone
    rw [Progress.step, hstep]
    exact ⟨rfl, rfl, hdone, ht.stepsLeft⟩

/-- The second of three frames is refused. The track that they are for was closed before, another one has its name, and
what happens later makes no difference. -/
theorem writes_pieces_in_order_until_refused :
    let s : Session := { Session.new {} "room" with frameSamples := 2 }
    let created := (s.publish "speaker").2
    let opened := (created.enlist "speaker" 0).2
    let closed := opened.closeTrack "speaker"
    let exchanged := ((closed.publish "speaker").2.enlist "speaker" 1).2
    let moments : List Moment :=
      [⟨s, .new, .go⟩, ⟨s, .new, .published (.ok ())⟩, ⟨created, .new, .go⟩, ⟨opened, .new, .recorded⟩,
        ⟨closed, .new, .written (.ok ())⟩, ⟨exchanged, .new, .go⟩,
        ⟨exchanged, .new, .written (.error (.trackClosed "speaker"))⟩]
    let x := (Progress.new s "speaker" [1, 0, 2, 0, 3, 0, 4, 0, 5, 0, 170]).run moments
    0 < s.frameSamples ∧ x.push.result? = some (.error (.trackClosed "speaker")) ∧
      x.deeds = written 0 [[1, 2]] ++ [.offered 0 [3, 4]] ++ [.refused (.trackClosed "speaker")] ∧
      ∀ more, x.run more = x := by
  intro s created opened closed exchanged moments x
  have hpieces : Pcm.pieces 2 [1, 2, 3, 4, 5] = [[1, 2], [3, 4], ([5] : Frame)] := by
    iterate 3 rw [Pcm.pieces_of_ne_nil (by decide) (by decide)]
    simp
  have hnew : Progress.new s "speaker" [1, 0, 2, 0, 3, 0, 4, 0, 5, 0, 170] =
      { push := ⟨"speaker", 5, none, [[1, 2], [3, 4], [5]], .obtaining .asking⟩ } := by
    rw [← hpieces]
    rfl
  have hresult : x.push.result? = some (.error (.trackClosed "speaker")) := by
    simp only [x, hnew]
    rfl
  have hall :=
    writes_pieces_in_order s (by decide) "speaker" [1, 0, 2, 0, 3, 0, 4, 0, 5, 0, 170] rfl hpieces moments rfl
  refine ⟨by decide, hresult, ?_, hall.2.2.2.1 _ hresult⟩
  simp only [x, hnew]
  rfl

end Push

end Playout
