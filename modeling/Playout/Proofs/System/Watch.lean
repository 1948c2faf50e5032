import Mathlib
import Playout.Proofs.Playback.Course
import Playout.Proofs.System.Tracks

/-!
# When a playback is told that its session is closed

A playback looks at its token whenever it has waited, and before each frame. Behind such a look it may call the
session and the room before it waits again (`Task.Stage.unwatched`). If its source can be played and the room does not
fail by itself (`Task.spared`), nothing can fail but such a call, in a session that is marked closed: this is what
every step of a playback keeps (`Session.Favours`, `Task.Transition.favours`). It needs that the track of the playback
stays on the map until the tokens of the session are cancelled, so that it is open too.
-/

namespace Playout

/-- The session or the room is called next, and the token is not looked at before. -/
def Task.Stage.unwatched : Task.Stage → Bool
  | .obtaining .asking | .obtaining (.publishing false) | .obtaining (.enlisting _) | .pacing
  | .writing false false => true
  | _ => false

/-- The source can be fetched, and the room does not fail by itself: it may fail to publish when the session is being
left only, and to write then or to a closed track only. -/
def Task.spared (s : Session) (t : Task) : Cue → Bool
  | .answered (.error _) => false
  | .answered (.ok head) => head.status / 100 = 2 && (AudioFormat.detect head.contentType t.url.path).isSome
  | .published (.error _) => s.revoked
  | .written (.error _) => s.revoked || t.track.any s.room.isClosed
  | _ => true

/-- No track is taken off the map of a session whose tokens are not cancelled. -/
def Session.Retains (s s' : Session) : Prop := s'.revoked = false → ∀ entry ∈ s.tracks, entry ∈ s'.tracks

/-- What keeps a playback from failing: it calls a session that is not marked closed, unless it was told `late`, and
until the tokens are cancelled its track is on the map. So if it fails, it was told late. -/
structure Session.Favours (s : Session) (late : Prop) (t : Task) : Prop where
  watched : t.stage.unwatched = true → ¬late → s.closed = false
  kept : s.revoked = false → t.stage.listed = true → ∀ h, t.track = some h →
    (Track.normalize t.trackName, h) ∈ s.tracks
  early : t.phase = .fresh ∨ t.phase = .waiting → t.track = none
  fine : ∀ cause, t.stage.outcome? = some (.error cause) → late ∧ s.closed = true ∧ ∃ reason, cause = .delivery reason

namespace Session

variable {s s' : Session} {late : Prop} {t : Task} {hands : List Handle}

theorem Retains.of_tracks (h : s'.tracks = s.tracks) : s.Retains s' := by
  intro _ entry hmem
  rwa [h]

namespace Favours

theorem new (s : Session) (late : Prop) (config : Config) (slot : Nat) (url : Url) (request : Request) :
    s.Favours late (Task.new config slot url request) where
  watched h := by cases h
  kept _ h := by cases h
  early _ := rfl
  fine _ h := by cases h

/-- What happens beside a playback changes nothing, where it takes no track off the map while the playback works, and
does not mark the session before a call, unless that is what `late` says. -/
theorem beside (h : s.Favours late t) (hclosed : s.closed = true → s'.closed = true)
    (hrevoked : s.revoked = true → s'.revoked = true)
    (hwatched : t.stage.unwatched = true → ¬late → s'.closed = false)
    (htracks : t.phase = .working → s.Retains s') : s'.Favours late t where
  watched := hwatched
  kept hlive hstage k htrack := by
    have hlive' : s.revoked = false := by
      rw [← Bool.not_eq_true]
      intro hr
      cases (hrevoked hr).symm.trans hlive
    exact htracks (Task.working_of_listed hstage) hlive _ (h.kept hlive' hstage k htrack)
  early := h.early
  fine cause hcause := by
    obtain ⟨hlate, hc, hdelivery⟩ := h.fine cause hcause
    exact ⟨hlate, hclosed hc, hdelivery⟩

theorem late_of_unwatched (h : s.Favours late t) (hstage : t.stage.unwatched = true) (hclosed : s.closed = true) :
    late := by
  by_contra hlate
  cases hclosed.symm.trans (h.watched hstage hlate)

/-- Where its token is cancelled, a playback that has not looked at it was told late. -/
theorem late_of_revoked (h : s.Favours late t) (hs : s.SlotsInOrder) (hrevoked : s.revoked = true)
    (hlook : t.stage.unwatched = true ∨ s.isCancelled t.slot = false) : late := by
  rcases hlook with hstage | hlive
  · exact h.late_of_unwatched hstage (hs.revoked hrevoked)
  · cases (s.isCancelled_of_revoked hrevoked t.slot).symm.trans hlive

theorem revoked_of_unwritten (h : s.Favours late t) (hc : s.Custody hands) (hstage : t.stage.listed = true)
    {cause : DeliveryError} (hspared : t.spared s (.written (.error cause)) = true) : s.revoked = true := by
  rw [← Bool.not_eq_false]
  intro hlive
  obtain ⟨k, htrack, hk⟩ : ∃ k, t.track = some k ∧ s.room.isClosed k = true := by
    rw [Task.spared, hlive, Bool.false_or, Option.any_eq_true_iff_get] at hspared
    obtain ⟨hsome, hk⟩ := hspared
    exact ⟨_, (Option.some_get hsome).symm, hk⟩
  have hmem := List.mem_map_of_mem (f := Prod.snd) (h.kept hlive hstage k htrack)
  cases (hc.isOpen k (List.mem_append_left _ hmem)).symm.trans hk

end Favours

end Session

/-! ## Steps of a playback -/

theorem Obtain.Transition.closed_of_error {s s' : Session} {name : String} {o : Obtain} {cue : Cue}
    {cause : DeliveryError} (h : Obtain.Transition s name o cue (.inr (.error cause)) s')
    (hcue : cue ≠ .published (.error cause)) : s.closed = true ∧ ∀ suspended, o ≠ .publishing suspended := by
  refine ⟨(h.of_error.resolve_left hcue).2, ?_⟩
  rintro suspended rfl
  generalize hr : (.inr (.error cause) : Obtain ⊕ Except DeliveryError Handle) = r at h
  cases h with
  | unpublished =>
    cases hr
    exact hcue rfl
  | suspend | published => cases hr

namespace Task

variable {s s' : Session} {m m' : Counters} {t t' : Task} {cue : Cue} {hands : List Handle} {late : Prop}

/-! ### What is taken in -/

theorem receive_of_spared {result : Except String Head} (h : t.spared s (.answered result) = true) :
    t.receive result = t.enter .listening := by
  cases result with
  | error reason => cases h
  | ok head =>
    obtain ⟨hstatus, hformat⟩ : head.status / 100 = 2 ∧ (AudioFormat.detect head.contentType t.url.path).isSome := by
      simpa [spared] using h
    have hformat' : (AudioFormat.detect head.contentType t.url.path).isNone = false := by
      rw [← Option.not_isSome, hformat]
      rfl
    simp [receive, hstatus, hformat']

theorem outcome_flush_ne_error (t : Task) (cause : PlaybackError) : t.flush.stage.outcome? ≠ some (.error cause) := by
  unfold flush
  split <;> simp [completed, enter, Stage.outcome?]

/-- A report that goes on with a reel leads on, unless it is a failure: runs of samples are heard behind the
parameters. -/
theorem Course.outcome_hear {size : Nat} {reel : Reel} {heard : List (Option Event)} {written : List Frame}
    (h : Course size reel heard written t) (hstage : t.stage = .listening) {event : Event}
    (hp : heard ++ [some event] <+: reel.cues) (hevent : ∀ cause, event ≠ .failed cause) :
    (t.hear size event).stage.outcome? = none := by
  obtain ⟨samples, hs⟩ := h.streaming_of (by rw [hstage]; rfl)
  have hfinal := (hs.idle (by rw [hstage]; rfl)).2
  have hsource := hs.source
  rw [hfinal] at hsource
  cases event with
  | spec spec => rfl
  | samples run =>
    obtain ⟨tail, htail, -⟩ := hsource.run hp
    simp [hear, htail, Stage.outcome?]
  | failed cause => exact absurd rfl (hevent cause)

/-! ### What a step keeps -/

theorem look_of_obtaining {o : Obtain} (hstage : t.stage = .obtaining o)
    (hc : o = .publishing true → s.isCancelled t.slot = false) :
    t.stage.unwatched = true ∨ s.isCancelled t.slot = false := by
  by_cases ho : o = .publishing true
  · exact .inr (hc ho)
  · left
    rw [hstage]
    cases o with
    | asking | enlisting => rfl
    | publishing suspended =>
      cases suspended with
      | false => rfl
      | true => exact absurd rfl ho

theorem look_of_writing {suspended : Bool} (hstage : t.stage = .writing suspended false)
    (hc : suspended = true → s.isCancelled t.slot = false) :
    t.stage.unwatched = true ∨ s.isCancelled t.slot = false := by
  cases suspended with
  | false =>
    left
    rw [hstage]
    rfl
  | true => exact .inr (hc rfl)

theorem Transition.kept (ht : Transition s m t cue t' s' m') (h : s.Favours late t) (hlive : s'.revoked = false)
    (hstage' : t'.stage.listed = true) {k : Handle} (htrack : t'.track = some k) :
    (Track.normalize t'.trackName, k) ∈ s'.tracks := by
  rw [ht.stays.revoked] at hlive
  rw [ht.same.trackName]
  -- the track was there before, and is on the map still
  have honward : t.stage.listed = true → t'.track = t.track → (∀ entry ∈ s.tracks, entry ∈ s'.tracks) →
      (Track.normalize t.trackName, k) ∈ s'.tracks := by
    intro hstage heq hmem
    exact hmem _ (h.kept hlive hstage k (heq ▸ htrack))
  cases ht with
  | ask hstage =>
    cases (h.early (.inl (phase_of_stage hstage))).symm.trans htrack
  | granted hstage =>
    cases (h.early (.inr (phase_of_stage hstage))).symm.trans htrack
  | answered hstage => exact honward (by rw [hstage]; rfl) (t.onward_receive _).track fun _ hmem => hmem
  | heard hstage => exact honward (by rw [hstage]; rfl) (t.onward_hear _ _).track fun _ hmem => hmem
  | exhausted hstage => exact honward (by rw [hstage]; rfl) t.onward_flush.track fun _ hmem => hmem
  | delivered hstage =>
    refine honward (by rw [hstage]; rfl) ?_ fun _ hmem => hmem
    split <;> rfl
  | reuse hstage _ _ htrack' => exact honward (by rw [hstage]; rfl) htrack'.symm fun _ hmem => hmem
  | obtaining hstage _ ho | unobtained hstage _ ho =>
    exact honward (by rw [hstage]; rfl) rfl fun _ hmem => ho.mem_tracks hmem
  | obtained _ _ ho =>
    cases htrack
    exact ho.mem_of_ok
  | stopFetching hstage | stopListening hstage | stopDelivering hstage | seek hstage | stopPublishing hstage
  | resumePublishing hstage | booked hstage | stopHolding hstage | due hstage | stopWriting hstage | suspend hstage
  | resume hstage | recorded hstage | unwritten hstage | written hstage | counted hstage =>
    exact honward (by rw [hstage]; rfl) rfl fun _ hmem => hmem
  | quit | quitWaiting | unlisted | unlistedNone | silenced | released | retired | reported => cases hstage'

/-- A playback fails of a call to the session or the room only, and that only when it was told late. -/
theorem Transition.fine (ht : Transition s m t cue t' s' m') (h : s.Favours late t) (hs : s.SlotsInOrder)
    (hc : s.Custody hands) (hspared : t.spared s cue = true)
    (hheard : ∀ event, cue = .event event → t.stage = .listening → s.isCancelled t.slot = false →
      (t.hear s.frameSamples event).stage.outcome? = none) {cause : PlaybackError}
    (hcause : t'.stage.outcome? = some (.error cause)) :
    late ∧ s.closed = true ∧ ∃ reason, cause = .delivery reason := by
  cases ht with
  | answered =>
    rw [receive_of_spared hspared] at hcause
    cases hcause
  | heard hstage hlive =>
    rw [hheard _ rfl hstage hlive] at hcause
    cases hcause
  | exhausted => exact absurd hcause (t.outcome_flush_ne_error cause)
  | @unobtained o cue reason _ hstage hlook ho =>
    have hlook := look_of_obtaining hstage hlook
    cases hcause
    by_cases hcue : cue = .published (.error reason)
    · subst hcue
      exact ⟨h.late_of_revoked hs hspared hlook, hs.revoked hspared, _, rfl⟩
    · obtain ⟨hclosed, ho⟩ := ho.closed_of_error hcue
      refine ⟨h.late_of_unwatched ?_ hclosed, hclosed, _, rfl⟩
      rw [hstage]
      cases o with
      | asking | enlisting => rfl
      | publishing suspended => exact absurd rfl (ho suspended)
  | unwritten hstage hlook =>
    have hrevoked := h.revoked_of_unwritten hc (by rw [hstage]; rfl) hspared
    cases hcause
    exact ⟨h.late_of_revoked hs hrevoked (look_of_writing hstage hlook), hs.revoked hrevoked, _, rfl⟩
  | unlisted hstage | unlistedNone hstage | silenced hstage | released hstage | retired hstage | reported hstage =>
    refine h.fine cause ?_
    rw [hstage]
    exact hcause
  | ask | delivered | booked => split at hcause <;> cases hcause
  | reuse | obtained =>
    unfold withTrack at hcause
    dsimp only at hcause
    split at hcause <;> cases hcause
  | _ => cases hcause

theorem Transition.favours (ht : Transition s m t cue t' s' m') (h : s.Favours late t) (hs : s.SlotsInOrder)
    (hc : s.Custody hands) (hspared : t.spared s cue = true)
    (hheard : ∀ event, cue = .event event → t.stage = .listening → s.isCancelled t.slot = false →
      (t.hear s.frameSamples event).stage.outcome? = none)
    (hwatched : t'.stage.unwatched = true → ¬late → s'.closed = false) : s'.Favours late t' where
  watched := hwatched
  kept hlive hstage' _ htrack := ht.kept h hlive hstage' htrack
  early hphase' := by
    have hphase := ht.turn.early hphase'
    rcases ht.track with heq | ⟨o, hstage⟩
    · rw [heq, h.early hphase]
    · simp [phase_of_stage hstage, Stage.phase] at hphase
  fine cause hcause := by
    rw [ht.stays.closed]
    exact ht.fine h hs hc hspared hheard hcause

theorem Transition.failed_of_fine (ht : Transition s m t cue t' s' m')
    (hfine : ∀ cause, t'.stage.outcome? ≠ some (.error cause)) : m'.failed = m.failed := by
  cases ht with
  | @reported ending =>
    cases ending with
    | error cause => exact absurd rfl (hfine cause)
    | ok outcome => cases outcome <;> rfl
  | _ => rfl

end Task

end Playout
