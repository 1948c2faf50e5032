import Mathlib
import Playout.Proofs.Session.Push
import Playout.Proofs.System.Delivery

/-!
# What the counters of delivered audio tell

The room accepts a frame in one step, and the frame is counted in a later one. A playback counts a frame and its
samples together. A push counts its frames one by one and its samples in one go, behind the last frame, so that the
samples of a push that fails on the way, or that nobody takes on any more, are never counted. What has been counted
and what has been accepted without being counted make up, at any time, what the rooms have accepted
(`System.Balanced`).
-/

namespace Playout

/-! ## Amounts -/

/-- How many frames, and how many samples in them. -/
abbrev Amount := Nat × Nat

def amount (frames : List Frame) : Amount := (frames.length, Task.sampleCount frames)

@[simp] theorem amount_nil : amount [] = 0 := rfl

theorem Task.sampleCount_cons (frame : Frame) (frames : List Frame) :
    sampleCount (frame :: frames) = frame.length + sampleCount frames :=
  List.sum_cons

theorem amount_cons (frame : Frame) (frames : List Frame) :
    amount (frame :: frames) = (1, frame.length) + amount frames := by
  simp [amount, Task.sampleCount_cons, Nat.add_comm]

@[simp] theorem amount_append (frames more : List Frame) : amount (frames ++ more) = amount frames + amount more := by
  simp [amount, Task.sampleCount_append]

theorem amount_flatMap {α : Type} (f : α → List Frame) (l : List α) :
    amount (l.flatMap f) = (l.map fun a => amount (f a)).sum := by
  induction l with
  | nil => rfl
  | cons a l ih => simp [ih]

/-! ## Rooms -/

namespace Room

variable {r : Room} {h : Handle}

def frames (r : Room) : List Frame := r.tracks.flatMap (·.frames)

@[simp] theorem frames_create (r : Room) (name : String) : (r.create name).2.frames = r.frames := by
  simp [frames, create]

@[simp] theorem frames_closeTrack (r : Room) (h : Handle) : (r.closeTrack h).frames = r.frames := by
  rw [frames, frames, List.flatMap_def, List.flatMap_def]
  have hsame : (r.closeTrack h).tracks.map (·.frames) = r.tracks.map (·.frames) := by
    apply map_modify_of_same
    intro t _
    rfl
  rw [hsame]

theorem amount_record (ho : r.isClosed h = false) (frame : Frame) :
    amount (r.record h frame).frames = amount r.frames + (1, frame.length) := by
  obtain ⟨t, hsome⟩ : ∃ t, r.tracks[h]? = some t := ⟨_, List.getElem?_eq_getElem (lt_length_of_open ho)⟩
  have hset : (r.record h frame).tracks = r.tracks.set h { t with frames := t.frames ++ [frame] } := by
    rw [record, update, List.modify_eq_set_getElem?, hsome]
    rfl
  have hsum := sum_set (fun t : Room.Track => amount t.frames) hsome { t with frames := t.frames ++ [frame] }
  rw [amount_append, amount_cons, amount_nil, add_zero, ← hset] at hsum
  rw [frames, frames, amount_flatMap, amount_flatMap]
  -- amounts are exchanged by addition alone: that of the track before stands on both sides
  apply add_right_cancel (b := amount t.frames)
  rw [hsum]
  abel

end Room

def Metrics.counted {τ : Type} (m : Metrics τ) : Amount := (m.frames, m.samples)

theorem Obtain.Transition.frames {s s' : Session} {name : String} {o : Obtain} {cue : Cue}
    {r : Obtain ⊕ Except DeliveryError Handle} (h : Obtain.Transition s name o cue r s') :
    s'.room.frames = s.room.frames := by
  cases h with
  | found | refused | missing | suspend | unpublished => rfl
  | published => exact s.room.frames_create _
  | @enlisted h =>
    rcases s.enlist_cases name h with ⟨result, heq, -⟩ | ⟨-, heq⟩
    · rw [heq]
      exact s.room.frames_closeTrack _
    · rw [heq]

theorem Session.Call.Transition.frames {s s' : Session} {c c' : Session.Call} {p : Session.Call.Prompt}
    (h : c.Transition s p c' s') : s'.room.frames = s.room.frames := by
  cases h with
  | obtain ho => exact ho.frames
  | silenced | muted => exact s.room.frames_closeTrack _
  | _ => rfl

/-! ## Playbacks -/

namespace Task

variable {s s' : Session} {m m' : Counters} {t t' : Task} {cue : Cue}

theorem uncounted_eq_nil (h : t.stage.accepted = false) : t.uncounted = [] := by
  rw [uncounted, h]
  rfl

theorem uncounted_new (config : Config) (slot : Nat) (url : Url) (request : Request) :
    (new config slot url request).uncounted = [] :=
  rfl

theorem uncounted_receive (t : Task) (result : Except String Head) : (t.receive result).uncounted = [] := by
  unfold receive
  split
  · rfl
  · split
    · rfl
    · split <;> rfl

theorem uncounted_hear (frameSamples : Nat) (t : Task) (event : Event) :
    (t.hear frameSamples event).uncounted = [] := by
  unfold hear
  split
  · rfl
  · split <;> rfl
  · rfl

theorem uncounted_flush (t : Task) : t.flush.uncounted = [] := by
  unfold flush
  split <;> rfl

theorem uncounted_withTrack (t : Task) (h : Handle) : (t.withTrack h).uncounted = [] := by
  apply uncounted_eq_nil
  unfold withTrack
  dsimp only
  split <;> rfl

/-- A step of a playback counts what was accepted of it, or has something accepted, or neither. -/
theorem Transition.balance (h : Transition s m t cue t' s' m') :
    m'.counted + amount t'.uncounted + amount s.room.frames =
      m.counted + amount t.uncounted + amount s'.room.frames := by
  have hrest : t.stage.accepted = false → t'.uncounted = [] → m'.counted = m.counted →
      s'.room.frames = s.room.frames →
      m'.counted + amount t'.uncounted + amount s.room.frames =
        m.counted + amount t.uncounted + amount s'.room.frames := by
    intro hstage huncounted hm hframes
    rw [uncounted_eq_nil hstage, huncounted, hm, hframes]
  cases h with
  | quit hstage | quitWaiting hstage | granted hstage | stopFetching hstage | stopListening hstage
  | stopDelivering hstage | seek hstage | stopPublishing hstage | resumePublishing hstage | stopHolding hstage
  | due hstage | stopWriting hstage | suspend hstage | resume hstage | unwritten hstage | unlisted hstage
  | unlistedNone hstage | released hstage =>
    exact hrest (by rw [hstage]; rfl) rfl rfl rfl
  | ask hstage =>
    refine hrest (by rw [hstage]; rfl) (uncounted_eq_nil ?_) rfl rfl
    split <;> rfl
  | answered hstage => exact hrest (by rw [hstage]; rfl) (t.uncounted_receive _) rfl rfl
  | heard hstage => exact hrest (by rw [hstage]; rfl) (t.uncounted_hear _ _) rfl rfl
  | exhausted hstage => exact hrest (by rw [hstage]; rfl) t.uncounted_flush rfl rfl
  | delivered hstage | booked hstage =>
    refine hrest (by rw [hstage]; rfl) (uncounted_eq_nil ?_) rfl rfl
    split <;> rfl
  | reuse hstage => exact hrest (by rw [hstage]; rfl) (t.uncounted_withTrack _) rfl rfl
  | obtaining hstage _ ho | unobtained hstage _ ho => exact hrest (by rw [hstage]; rfl) rfl rfl ho.frames
  | obtained hstage _ ho => exact hrest (by rw [hstage]; rfl) (t.uncounted_withTrack _) rfl ho.frames
  | @recorded _ _ frame _ hstage _ _ htodo hopen =>
    have hbefore : t.uncounted = [] := uncounted_eq_nil (by rw [hstage]; rfl)
    have hbehind : (t.enter (.writing false true)).uncounted = [frame] := by
      simp [uncounted, enter, Stage.accepted, htodo]
    rw [hbefore, hbehind, Room.amount_record hopen, amount_cons, amount_nil]
    abel
  | written hstage => simp [uncounted, enter, hstage, Stage.accepted]
  | @counted frame rest hstage htodo =>
    have hbefore : t.uncounted = [frame] := by simp [uncounted, hstage, Stage.accepted, htodo]
    rw [hbefore, uncounted_eq_nil rfl, amount_cons, amount_nil]
    rfl
  | silenced hstage => exact hrest (by rw [hstage]; rfl) rfl rfl (s.room.frames_closeTrack _)
  | retired hstage =>
    have hframes : (s.finish t.slot).room.frames = s.room.frames := congrArg Room.frames (s.sameTracks_finish _).room
    exact hrest (by rw [hstage]; rfl) rfl rfl hframes
  | @reported ending hstage =>
    refine hrest (by rw [hstage]; rfl) rfl ?_ rfl
    unfold Counters.countEnding
    split <;> rfl

end Task

/-! ## Pushes -/

namespace Push

variable {s s' : Session} {m m' : Counters} {p p' : Push} {cue : Cue}

/-- The room has accepted the frame at hand, and it is not counted yet. -/
def Stage.accepted : Stage → Bool
  | .writing true | .counting => true
  | _ => false

/-- Every sample was written. -/
def Stage.completed : Stage → Bool
  | .done (.ok _) => true
  | _ => false

/-- The frames that the track has not accepted. -/
def upcoming (p : Push) : List Frame := if p.stage.accepted then p.todo.tail else p.todo

/-- The samples that the track has accepted. -/
def delivered (p : Push) : Nat := p.total - Task.sampleCount p.upcoming

/-- The samples that the track has accepted and that are not counted: those of a push that is not completed. -/
def unsettled (p : Push) : Nat := if p.stage.completed then 0 else p.delivered

theorem unsettled_eq_zero (p : Push) :
    p.unsettled = 0 ↔ (∃ count, p.result? = some (.ok count)) ∨ p.delivered = 0 := by
  unfold unsettled result?
  cases hstage : p.stage with
  | done result => cases result <;> simp [Stage.completed]
  | _ => simp [Stage.completed]

/-- What was accepted of a push and is not counted. -/
def uncounted (p : Push) : Amount := (if p.stage.accepted then 1 else 0, p.unsettled)

theorem uncounted_of_completed (h : p.stage.completed = true) : p.uncounted = 0 := by
  have haccepted : p.stage.accepted = false := by
    cases hstage : p.stage <;> rw [hstage] at h <;> first | rfl | cases h
  simp [uncounted, unsettled, haccepted, h]

theorem uncounted_of_accepted (h : p.stage.accepted = true) :
    p.uncounted = (1, p.total - Task.sampleCount p.todo.tail) := by
  have hcompleted : p.stage.completed = false := by
    cases hstage : p.stage <;> rw [hstage] at h <;> first | rfl | cases h
  simp [uncounted, unsettled, delivered, upcoming, h, hcompleted]

theorem uncounted_of_not_accepted (h : p.stage.accepted = false) (hcompleted : p.stage.completed = false) :
    p.uncounted = (0, p.total - Task.sampleCount p.todo) := by
  simp [uncounted, unsettled, delivered, upcoming, h, hcompleted]

/-- What is left to write is part of a push, and all of it up to the first frame. -/
structure Coherent (p : Push) : Prop where
  fits : Task.sampleCount p.todo ≤ p.total
  fresh : ∀ o, p.stage = .obtaining o → Task.sampleCount p.todo = p.total

theorem Coherent.new (hsize : 0 < s.frameSamples) (name : String) (pcm : Bytes) : (Push.new s name pcm).Coherent := by
  have hwhole : Task.sampleCount (Push.new s name pcm).todo = (Push.new s name pcm).total := by
    have hflatten := congrArg List.length (Pcm.flatten_pieces hsize (Pcm.ofLittleEndian pcm))
    rwa [List.length_flatten] at hflatten
  exact ⟨hwhole.le, fun _ _ => hwhole⟩

theorem uncounted_new (hsize : 0 < s.frameSamples) (name : String) (pcm : Bytes) :
    (Push.new s name pcm).uncounted = 0 := by
  by_cases hnil : Pcm.ofLittleEndian pcm = []
  · have hstage : (Push.new s name pcm).stage = .done (.ok 0) := by simp [Push.new, hnil]
    exact uncounted_of_completed (by rw [hstage]; rfl)
  · have hstage : (Push.new s name pcm).stage = .obtaining .asking := by simp [Push.new, hnil]
    have hfresh := (Coherent.new hsize name pcm).fresh _ hstage
    rw [uncounted_of_not_accepted (by rw [hstage]; rfl) (by rw [hstage]; rfl), hfresh, Nat.sub_self]
    rfl

theorem Transition.coherent (h : Transition s m p cue p' s' m') (hp : p.Coherent) : p'.Coherent := by
  cases h with
  | obtaining hstage => exact ⟨hp.fits, fun _ _ => hp.fresh _ hstage⟩
  | unobtained | obtained | recorded | unwritten | written => exact ⟨hp.fits, by simp⟩
  | counted _ htodo =>
    have hfits := hp.fits
    rw [htodo, Task.sampleCount_cons] at hfits
    exact ⟨(Nat.le_add_left _ _).trans hfits, by simp⟩
  | completed => exact ⟨Nat.zero_le _, by simp⟩

theorem Transition.balance (h : Transition s m p cue p' s' m') (hp : p.Coherent) :
    m'.counted + p'.uncounted + amount s.room.frames = m.counted + p.uncounted + amount s'.room.frames := by
  -- most steps neither count anything nor have anything accepted
  have hrest : p'.stage.accepted = p.stage.accepted → p'.stage.completed = p.stage.completed → p'.todo = p.todo →
      p'.total = p.total → s'.room.frames = s.room.frames →
      m.counted + p'.uncounted + amount s.room.frames = m.counted + p.uncounted + amount s'.room.frames := by
    intro haccepted hcompleted htodo htotal hframes
    rw [uncounted, unsettled, delivered, upcoming, haccepted, hcompleted, htodo, htotal, hframes]
    rfl
  have hfits := hp.fits
  cases h with
  | obtaining hstage ho | unobtained hstage ho | obtained hstage ho =>
    exact hrest (by rw [hstage]; rfl) (by rw [hstage]; rfl) rfl rfl ho.frames
  | unwritten hstage | written hstage => exact hrest (by rw [hstage]; rfl) (by rw [hstage]; rfl) rfl rfl rfl
  | @recorded _ frame rest hstage _ htodo hopen =>
    have hbefore : p.uncounted = (0, p.total - Task.sampleCount p.todo) :=
      uncounted_of_not_accepted (by rw [hstage]; rfl) (by rw [hstage]; rfl)
    have hbehind : uncounted { p with stage := .writing true } = (1, p.total - Task.sampleCount p.todo.tail) :=
      uncounted_of_accepted rfl
    rw [hbefore, hbehind, Room.amount_record hopen, Prod.ext_iff]
    -- the frame is part of the push, so that nothing is cut off where its samples are taken from the total
    simp only [htodo, List.tail_cons, Task.sampleCount_cons, Prod.fst_add, Prod.snd_add] at hfits ⊢
    omega
  | @counted frame next rest hstage htodo =>
    have hbefore : p.uncounted = (1, p.total - Task.sampleCount p.todo.tail) :=
      uncounted_of_accepted (by rw [hstage]; rfl)
    have hbehind : uncounted { p with todo := next :: rest, stage := .writing false } =
        (0, p.total - Task.sampleCount (next :: rest)) :=
      uncounted_of_not_accepted rfl rfl
    rw [hbefore, hbehind, htodo]
    rfl
  | @completed frame hstage htodo =>
    have hbefore : p.uncounted = (1, p.total - Task.sampleCount p.todo.tail) :=
      uncounted_of_accepted (by rw [hstage]; rfl)
    have hbehind : uncounted { p with todo := [], stage := .done (.ok p.total) } = 0 := uncounted_of_completed rfl
    rw [hbefore, hbehind, htodo]
    rfl

end Push

/-! ## Errands -/

namespace Errand

variable {s s' : Session} {m m' : Counters} {e e' : Errand} {cue : Cue}

def push? : Errand → Option Push
  | .push p => some p
  | _ => none

/-- What was accepted of an errand and is not counted. -/
def uncounted (e : Errand) : Amount := (e.push?.map Push.uncounted).getD 0

/-- What is left of a push is part of it. -/
def Coherent (e : Errand) : Prop := ∀ p, e.push? = some p → p.Coherent

theorem push?_tracking (name : String) (r : Obtain ⊕ Except DeliveryError Handle) : (tracking name r).push? = none := by
  cases r <;> rfl

theorem step_coherent (h : e.step s m cue = some (e', s', m')) (he : e.Coherent) : e'.Coherent := by
  obtain ⟨name, o, r, rfl, rfl, -⟩ | ⟨p, p', rfl, rfl, hp⟩ := step_cases h
  · intro p hp
    cases (push?_tracking name r).symm.trans hp
  · rintro _ ⟨⟩
    exact (Push.transition_of_step hp).coherent (he _ rfl)

theorem step_balance (h : e.step s m cue = some (e', s', m')) (he : e.Coherent) :
    m'.counted + e'.uncounted + amount s.room.frames = m.counted + e.uncounted + amount s'.room.frames := by
  obtain ⟨name, o, r, rfl, rfl, ho, rfl⟩ | ⟨p, p', rfl, rfl, hp⟩ := step_cases h
  · rw [ho.frames, uncounted, push?_tracking]
    rfl
  · exact (Push.transition_of_step hp).balance (he _ rfl)

end Errand

theorem Studio.Reachable.coherent {config : Config} {st : Studio} (h : st.Reachable config) :
    ∀ e ∈ st.errands, e.Coherent := by
  obtain ⟨id, h⟩ := h
  induction h with
  | refl => simp [Studio.new]
  | @tail st st' hsteps hs ih =>
    have hframe : st.session.frameSamples = config.frameSamples :=
      Studio.OnCourse.frameSamples (Studio.Reachable.onCourse ⟨id, hsteps⟩)
    cases hs with
    | track name =>
      intro e he
      rcases List.mem_append.1 he with he | he
      · exact ih e he
      · obtain rfl := List.mem_singleton.1 he
        rintro _ ⟨⟩
    | push name pcm =>
      intro e he
      rcases List.mem_append.1 he with he | he
      · exact ih e he
      · obtain rfl := List.mem_singleton.1 he
        rintro _ ⟨⟩
        exact .new (hframe ▸ config.frameSamples_pos) name pcm
    | attend herrands hstep =>
      rw [herrands] at ih
      intro e he
      rcases mem_replaced.1 he with rfl | he
      · exact Errand.step_coherent hstep (ih _ (by simp))
      · exact ih e (mem_of_others he)
    | _ => exact ih

/-! ## A service -/

namespace System

variable {σ : System}

def frames (σ : System) : List Frame := σ.service.sessions.flatMap (·.room.frames)

def pushes (σ : System) : List Push := σ.errands.filterMap (·.2.push?)

/-- What was accepted and is not counted. -/
def uncounted (σ : System) : Amount :=
  (σ.service.tasks.map fun entry => amount entry.2.uncounted).sum + (σ.errands.map (·.2.uncounted)).sum

/-- What is counted and what is not are what was accepted. -/
def Balanced (σ : System) : Prop := σ.service.counters.counted + σ.uncounted = amount σ.frames

namespace Balanced

theorem new (config : Config) : (System.new config).Balanced := rfl

theorem of_same {σ' : System} (h : σ.Balanced) (hcounted : σ'.service.counters.counted = σ.service.counters.counted)
    (huncounted : σ'.uncounted = σ.uncounted) (hframes : amount σ'.frames = amount σ.frames) : σ'.Balanced := by
  rw [Balanced, hcounted, huncounted, hframes]
  exact h

theorem update (h : σ.Balanced) (n : Nat) {f : Session → Session} (hf : ∀ s, (f s).room.frames = s.room.frames) :
    (σ.update n f).Balanced := by
  refine h.of_same rfl rfl ?_
  rw [frames, frames, List.flatMap_def, List.flatMap_def]
  have hsame : (σ.update n f).service.sessions.map (·.room.frames) = σ.service.sessions.map (·.room.frames) :=
    map_modify_of_same _ _ n fun s _ => hf s
  rw [hsame]

theorem exchange {c c' u u' T T' S S' r r' : Amount} (h : c + T = S) (hstep : c' + u' + r = c + u + r')
    (hT : T' + u = T + u') (hS : S' + r = S + r') : c' + T' = S' := by
  simp only [Prod.ext_iff, Prod.fst_add, Prod.snd_add] at h hstep hT hS ⊢
  omega

theorem work {σ' : System} (h : σ.Balanced) {n : Nat} {s s' : Session} (hs : σ.service.sessions[n]? = some s)
    (hframes : s'.room.frames = s.room.frames)
    (hsessions : σ'.service.sessions = σ.service.sessions.modify n fun _ => s')
    (hcounted : σ'.service.counters.counted = σ.service.counters.counted) (huncounted : σ'.uncounted = σ.uncounted) :
    σ'.Balanced := by
  refine h.of_same hcounted huncounted ?_
  rw [frames, frames, amount_flatMap, amount_flatMap, hsessions]
  have hsame := map_modify_of_same (f := fun _ => s') (fun s => amount s.room.frames) σ.service.sessions n ?_
  · rw [hsame]
  · intro s₀ hs₀
    obtain rfl := Option.some.inj (hs.symm.trans hs₀)
    rw [hframes]

theorem play {σ' : System} (h : σ.Balanced) {k : Nat} {cue : Cue} (hstep : σ.Step (.play k cue) σ') :
    σ'.Balanced := by
  cases hstep with
  | idle => exact h
  | @played _ n _ t t' s s' m' hk hs ht =>
    have htasks := sum_set (fun entry : Nat × Task => amount entry.2.uncounted) hk (n, t')
    have hsessions := sum_set (fun s : Session => amount s.room.frames) hs s'
    rw [Balanced, frames, amount_flatMap] at h
    rw [Balanced, frames, amount_flatMap, List.modify_eq_set_getElem?, hs]
    refine exchange h (Task.transition_of_step ht).balance ?_ hsessions
    simp only [uncounted]
    rw [add_right_comm, htasks, add_right_comm]

theorem attend {config : Config} {σ' : System} (h : σ.Balanced) (hsound : σ.Sound config) {i : Nat} {cue : Cue}
    (hstep : σ.Step (.attend i cue) σ') : σ'.Balanced := by
  cases hstep with
  | idle => exact h
  | @attended _ n _ e e' s s' m' hi hs he =>
    have hcoherent : e.Coherent :=
      (hsound.reachable n _ (studio_of_session hs)).coherent e (mem_partOf.2 (List.mem_of_getElem? hi))
    have herrands := sum_set (fun entry : Nat × Errand => entry.2.uncounted) hi (n, e')
    have hsessions := sum_set (fun s : Session => amount s.room.frames) hs s'
    rw [Balanced, frames, amount_flatMap] at h
    rw [Balanced, frames, amount_flatMap, Service.update, List.modify_eq_set_getElem?, hs]
    refine exchange h (Errand.step_balance he hcoherent) ?_ hsessions
    simp only [uncounted]
    rw [add_assoc, herrands, ← add_assoc]

theorem step {config : Config} {σ' : System} {m : Move} (h : σ.Balanced) (hsound : σ.Sound config)
    (hstep : σ.Step m σ') : σ'.Balanced := by
  cases hstep with
  | opened =>
    refine h.of_same rfl rfl ?_
    simp [frames, Session.new, Room.frames]
  | @accepted _ _ _ _ s _ hs =>
    refine h.work hs (congrArg Room.frames s.sameTracks_begin.room) rfl rfl ?_
    simp [uncounted, Task.uncounted_new]
  | played hk hs ht => exact h.play (.played hk hs ht)
  | attended hi hs he => exact h.attend hsound (.attended hi hs he)
  | cancelled => exact h.update _ fun _ => rfl
  | stopped n => exact h.update n fun s => congrArg Room.frames s.sameTracks_preempt.room
  | shutting | closing | closingTrack =>
    simpa only [Balanced, uncounted, System.frames, service_dial, errands_dial] using h
  | proceeded _ hs hc => exact h.work hs (Session.Call.transition_of_step hc).frames rfl rfl rfl
  | tracking =>
    refine h.of_same rfl ?_ rfl
    simp [uncounted, Errand.uncounted, Errand.push?]
  | @pushing n _ _ s hs =>
    have hsize : 0 < s.frameSamples := by
      have hframe := (hsound.reachable n _ (studio_of_session hs)).onCourse.frameSamples
      exact hframe ▸ config.frameSamples_pos
    refine h.of_same rfl ?_ rfl
    simp [uncounted, Errand.uncounted, Errand.push?, Push.uncounted_new hsize]
  | @offered n payload s =>
    have hupdate : (σ.update n fun s' => { s' with audio := (s.audio.offer payload).2 }).Balanced :=
      h.update n fun _ => rfl
    refine hupdate.of_same ?_ rfl rfl
    show (σ.service.counters.countOffer _).counted = σ.service.counters.counted
    cases (s.audio.offer payload).1 <;> rfl
  | taken n | received n | dropped n => exact h.update n fun s => rfl
  | _ => exact h.of_same rfl rfl rfl

theorem run (h : σ.Balanced) {config : Config} (hsound : σ.Sound config) (moves : List Move) :
    (σ.run moves).Balanced := by
  induction moves generalizing σ with
  | nil => exact h
  | cons m moves ih => exact ih (h.step hsound (σ.step_spec m)) (hsound.step m)

end Balanced

/-- No frame is on the way from being accepted to being counted. So it is wherever no write is in progress, and where
the room is still to accept the frame of a write that nobody takes on any more. -/
def quiet (σ : System) : Bool :=
  (σ.service.tasks.all fun entry => !entry.2.stage.accepted) && σ.pushes.all fun p => !p.stage.accepted

theorem uncounted_errands {errands : List (Nat × Errand)}
    (h : ∀ p ∈ errands.filterMap (·.2.push?), p.stage.accepted = false) :
    (errands.map (·.2.uncounted)).sum = (0, ((errands.filterMap (·.2.push?)).map Push.unsettled).sum) := by
  induction errands with
  | nil => rfl
  | cons entry errands ih =>
    rw [List.map_cons, List.sum_cons]
    cases hp : entry.2.push? with
    | none =>
      simp only [List.filterMap_cons, hp] at h ⊢
      rw [ih h, Errand.uncounted, hp]
      exact zero_add _
    | some p =>
      simp only [List.filterMap_cons, hp, List.forall_mem_cons] at h ⊢
      rw [ih h.2, Errand.uncounted, hp]
      simp [Push.uncounted, h.1]

theorem uncounted_of_quiet (h : σ.quiet = true) : σ.uncounted = (0, (σ.pushes.map Push.unsettled).sum) := by
  simp only [quiet, Bool.and_eq_true, List.all_eq_true, Bool.not_eq_true'] at h
  have htasks : (σ.service.tasks.map fun entry => amount entry.2.uncounted).sum = 0 := by
    refine List.sum_eq_zero ?_
    intro a ha
    obtain ⟨entry, hmem, rfl⟩ := List.mem_map.1 ha
    rw [Task.uncounted_eq_nil (h.1 entry hmem), amount_nil]
  rw [uncounted, htasks, zero_add]
  exact uncounted_errands h.2

/-- **What the counters tell.** While no frame is on the way from being accepted to being counted, the frames
counted are those accepted. So are the samples, if and only if every push of which a track has accepted anything is
completed. -/
theorem counters_of_quiet (config : Config) (moves : List Move) {σ : System} (hσ : (System.new config).run moves = σ)
    (hquiet : σ.quiet = true) :
    σ.service.counters.frames = σ.frames.length ∧
    σ.service.counters.samples + (σ.pushes.map Push.unsettled).sum = (σ.frames.map List.length).sum ∧
    (σ.service.counters.samples = (σ.frames.map List.length).sum ↔
      ∀ p ∈ σ.pushes, (∃ count, p.result? = some (.ok count)) ∨ p.delivered = 0) := by
  have hbalanced : σ.Balanced := hσ ▸ (Balanced.new config).run (Sound.new config) moves
  rw [Balanced, uncounted_of_quiet hquiet, Prod.ext_iff] at hbalanced
  have hsamples : σ.service.counters.samples + (σ.pushes.map Push.unsettled).sum = (σ.frames.map List.length).sum :=
    hbalanced.2
  refine ⟨hbalanced.1, hsamples, ?_⟩
  have hsettled : (σ.pushes.map Push.unsettled).sum = 0 ↔
      ∀ p ∈ σ.pushes, (∃ count, p.result? = some (.ok count)) ∨ p.delivered = 0 := by
    rw [List.sum_eq_zero_iff, List.forall_mem_map]
    exact forall₂_congr fun p _ => p.unsettled_eq_zero
  rw [← hsettled, ← hsamples]
  exact Nat.left_eq_add

/-- Two samples are pushed to a track, each in a frame of its own. The room accepts the first frame, and answers the
second one as given. -/
def pushed (answer : List Cue) : List Move :=
  let first : List Cue := [.go, .published (.ok ()), .go, .recorded, .written (.ok ()), .go]
  [.openSession "room", .push 0 "" [7, 0, 8, 0]] ++ (first ++ answer).map (.attend 0)

theorem counters_of_quiet_of_completed :
    ∃ σ, (System.new .terse).run (pushed [.recorded, .written (.ok ()), .go] ++ Move.once.tail) = σ ∧
      σ.frames = [[7], [8], [7], [8]] ∧ σ.service.counters.frames = σ.frames.length ∧
      σ.service.counters.samples = (σ.frames.map List.length).sum := by
  have hresults : (((System.new .terse).run (pushed [.recorded, .written (.ok ()), .go] ++ Move.once.tail)).pushes.map
      Push.result?) = [some (.ok 2)] := by
    decide +kernel
  obtain ⟨hframes, -, hsamples⟩ := counters_of_quiet .terse
    (pushed [.recorded, .written (.ok ()), .go] ++ Move.once.tail) rfl (by decide +kernel)
  refine ⟨_, rfl, by decide +kernel, hframes, hsamples.2 ?_⟩
  intro p hp
  have hresult := List.mem_map_of_mem (f := Push.result?) hp
  rw [hresults] at hresult
  exact .inl ⟨2, List.mem_singleton.1 hresult⟩

/-- Behind a push whose second frame the room refuses, with nothing else going on, the frame that was accepted is
counted, and the sample in it is not. -/
theorem samples_of_refused_push :
    ∃ σ, (System.new .terse).run (pushed [.written (.error (.io "full"))]) = σ ∧
      σ.service.tasks = [] ∧ (σ.pushes.map Push.result?) = [some (.error (.io "full"))] ∧ σ.frames = [[7]] ∧
      σ.service.counters.frames = 1 ∧ σ.service.counters.samples = 0 :=
  ⟨_, rfl, List.eq_nil_of_length_eq_zero (by decide +kernel), by decide +kernel, by decide +kernel,
    by decide +kernel, by decide +kernel⟩

end System

end Playout
