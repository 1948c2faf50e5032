import Mathlib
import Playout.Proofs.System.Delivery
import Playout.Proofs.System.Watch

/-!
# How soon a cancelled playback stops

A playback that is cancelled finds out when it looks at its token next. Up to then the room may accept one more frame
from it, and only where the playback calls the session or the room before it looks (`Task.grace`). No step of a
cancelled playback gives it more grace, and a frame that is accepted uses it up (`Task.Transition.grace_le`), so no
more than that is recorded, whatever happens in which order (`System.stops_within_one_frame`).
-/

namespace Playout

namespace Task

variable {s s' : Session} {m m' : Counters} {t t' : Task} {cue : Cue}

/-- The frames that the room may still accept from a playback once it is cancelled. -/
def grace (t : Task) : Nat := if t.stage.unwatched then 1 else 0

theorem grace_le_one (t : Task) : t.grace ≤ 1 := by
  unfold grace
  split <;> omega

theorem grace_of_unwatched (h : t.stage.unwatched = true) : t.grace = 1 := if_pos h

theorem grace_of_watched (h : t.stage.unwatched = false) : t.grace = 0 := by
  rw [grace, h]
  rfl

theorem Transition.grace_le (h : Transition s m t cue t' s' m') (hc : s.isCancelled t.slot = true) :
    ((t.notes s cue t').filterMap (Note.frameBy t.slot)).length + t'.grace ≤ t.grace := by
  -- a step in which no frame is accepted
  have hquiet : ((∀ suspended, t.stage ≠ .writing suspended false) ∨ t'.stage.accepted = false) →
      t'.grace ≤ t.grace → ((t.notes s cue t').filterMap (Note.frameBy t.slot)).length + t'.grace ≤ t.grace := by
    intro hnone hle
    rw [frameBy_of_notes hnone, List.length_nil, Nat.zero_add]
    exact hle
  have hwatched : t'.stage.unwatched = false → t'.grace ≤ t.grace := by
    intro hstage'
    rw [grace_of_watched hstage']
    exact Nat.zero_le _
  have hcalling : t.stage.unwatched = true ∨ s.isCancelled t.slot = false → t'.grace ≤ t.grace := by
    rintro (hstage | hlive)
    · rw [grace_of_unwatched hstage]
      exact t'.grace_le_one
    · cases hc.symm.trans hlive
  cases h with
  | ask _ hlive | granted _ hlive | answered _ hlive | heard _ hlive | exhausted _ hlive | seek _ _ hlive
  | reuse _ _ hlive | resumePublishing _ hlive | due _ hlive | resume _ hlive => cases hc.symm.trans hlive
  | quit hstage | quitWaiting hstage | stopFetching hstage | stopListening hstage | stopDelivering hstage
  | stopPublishing hstage | stopHolding hstage | stopWriting hstage | suspend hstage | unwritten hstage
  | counted hstage | unlisted hstage | unlistedNone hstage | silenced hstage | released hstage | retired hstage
  | reported hstage => exact hquiet (.inr rfl) (hwatched rfl)
  | written hstage => exact hquiet (.inl (by simp [hstage])) (hwatched rfl)
  | delivered hstage =>
    refine hquiet (.inl (by simp [hstage])) (hwatched ?_)
    split <;> rfl
  | obtaining hstage hlook | obtained hstage hlook | unobtained hstage hlook =>
    exact hquiet (.inl (by simp [hstage])) (hcalling (look_of_obtaining hstage hlook))
  | booked hstage => exact hquiet (.inl (by simp [hstage])) (hcalling (.inl (by rw [hstage]; rfl)))
  | recorded hstage hlook htrack htodo =>
    have hgrace : t.grace = 1 := by
      rcases look_of_writing hstage hlook with hunwatched | hlive
      · exact grace_of_unwatched hunwatched
      · cases hc.symm.trans hlive
    rw [hgrace, grace_of_watched rfl]
    simp [notes, hstage, enter, htrack, htodo, Note.frameBy]

end Task

namespace Studio

variable {config : Config} {st st' : Studio} {t : Task}

/-- A cancelled playback stays cancelled in every step of its studio, and what the room accepts from it in the step is
taken from its grace. -/
theorem Step.grace_le (hs : Step config st st') (hplaced : st.Placed) (ht : t ∈ st.tasks)
    (hc : st.session.isCancelled t.slot = true) :
    ∃ t' ∈ st'.tasks, t'.slot = t.slot ∧ st'.session.isCancelled t.slot = true ∧
      ∃ frames, st'.framesBy t.slot = st.framesBy t.slot ++ frames ∧ frames.length + t'.grace ≤ t.grace := by
  -- a step in which the playback stays as it is, and nothing is noted about it
  have hothers : ∀ {notes}, st'.log = st.log ++ notes → (∀ note ∈ notes, note.subject ≠ some t.slot) →
      ∃ frames, st'.framesBy t.slot = st.framesBy t.slot ++ frames ∧ frames.length + t.grace ≤ t.grace := by
    intro notes hlog hnotes
    refine ⟨[], ?_, (Nat.zero_add _).le⟩
    rw [(heardBy_framesBy_of_others hlog hnotes).2, List.append_nil]
  cases hs.progress with
  | aside ha =>
    obtain ⟨notes, hlog, hnotes⟩ := ha.log
    refine ⟨t, ha.tasks ▸ ht, rfl, ha.isCancelled _ hc, hothers hlog ?_⟩
    intro note hmem
    simp [hnotes note hmem]
  | accept url request =>
    refine ⟨t, List.mem_append_left _ ht, rfl, ?_, hothers (List.append_nil _).symm (by simp)⟩
    rw [Studio.accept, Session.isCancelled_begin]
    exact Session.isCancelled_preempt_of_isCancelled hc
  | @play before behind u u' cue s m m' htasks hu =>
    have hcancelled := hu.turn.isCancelled hc
    rw [htasks] at ht
    rcases mem_replaced.1 ht with rfl | hother
    · refine ⟨u', mem_replaced.2 (.inl rfl), hu.same.slot, hcancelled, _, ?_, hu.grace_le hc⟩
      rw [framesBy, List.filterMap_append, framesBy]
    · refine ⟨t, mem_replaced.2 (.inr hother), rfl, hcancelled, hothers rfl ?_⟩
      intro note hmem hsubject
      apply slot_ne_of_others (htasks ▸ hplaced.nodup) hother
      exact Option.some.inj (hsubject.symm.trans (Task.subject_of_mem_notes hmem))

theorem InOrder.steps (h : st.InOrder) (hs : Relation.ReflTransGen (Step config) st st') : st'.InOrder := by
  induction hs with
  | refl => exact h
  | tail _ hs ih => exact ih.step hs

/-- All frames that the room accepts from a cancelled playback are taken from the grace it had. -/
theorem InOrder.frames_le_grace (h : st.InOrder) (hs : Relation.ReflTransGen (Step config) st st') (ht : t ∈ st.tasks)
    (hc : st.session.isCancelled t.slot = true) :
    ∃ t' ∈ st'.tasks, t'.slot = t.slot ∧ st'.session.isCancelled t.slot = true ∧
      ∃ frames, st'.framesBy t.slot = st.framesBy t.slot ++ frames ∧ frames.length + t'.grace ≤ t.grace := by
  induction hs with
  | refl => exact ⟨t, ht, rfl, hc, [], (List.append_nil _).symm, (Nat.zero_add _).le⟩
  | @tail st₁ st₂ hs hstep ih =>
    obtain ⟨t₁, ht₁, hslot₁, hc₁, frames₁, hframes₁, hle₁⟩ := ih
    rw [← hslot₁] at hc₁ hframes₁ ⊢
    obtain ⟨t₂, ht₂, hslot₂, hc₂, frames₂, hframes₂, hle₂⟩ := hstep.grace_le (h.steps hs).placed ht₁ hc₁
    refine ⟨t₂, ht₂, hslot₂, hc₂, frames₁ ++ frames₂, ?_, ?_⟩
    · rw [hframes₂, hframes₁, List.append_assoc]
    · rw [List.length_append]
      omega

theorem log_prefix_of_steps (hs : Relation.ReflTransGen (Step config) st st') : st.log <+: st'.log := by
  induction hs with
  | refl => exact List.prefix_rfl
  | tail _ hs ih =>
    obtain ⟨notes, hlog, -⟩ := hs.log
    rw [hlog]
    exact ih.trans (List.prefix_append _ _)

end Studio

namespace System

/-- **A cancelled playback stops within one frame.** All tracks together record at most one more frame of it in any
continuation, and none if it stands where it looks at the token before it calls the session or the room. -/
theorem stops_within_one_frame (config : Config) (moves more : List Move) (n : Nat) {st st' : Studio}
    (hst : ((System.new config).run moves).studio n = some st)
    (hst' : ((System.new config).run (moves ++ more)).studio n = some st') {t : Task} (ht : t ∈ st.tasks)
    (hcancelled : st.session.isCancelled t.slot = true) :
    ∃ notes, st'.log = st.log ++ notes ∧
      (∀ h, st'.session.room.framesOf h = st.session.room.framesOf h ++ notes.filterMap (Note.frameOn h)) ∧
      (notes.filterMap (Note.frameBy t.slot)).length ≤ 1 ∧
      (t.stage.unwatched = false → notes.filterMap (Note.frameBy t.slot) = []) := by
  have hin := (reachable_of_run hst).inOrder
  have hin' := (reachable_of_run hst').inOrder
  obtain ⟨st₁, hst₁, hsteps⟩ := ((System.new config).run moves).steps_of_run more hst
  rw [run_append] at hst'
  obtain rfl : st₁ = st' := Option.some.inj (hst₁.symm.trans hst')
  obtain ⟨notes, hlog⟩ := Studio.log_prefix_of_steps hsteps
  obtain ⟨t', -, -, -, frames, hframes, hle⟩ := hin.frames_le_grace hsteps ht hcancelled
  obtain rfl : notes.filterMap (Note.frameBy t.slot) = frames := by
    rw [Studio.framesBy, ← hlog, List.filterMap_append] at hframes
    exact List.append_cancel_left hframes
  refine ⟨notes, hlog.symm, ?_, ?_, ?_⟩
  · intro h
    rw [hin'.accounted.frames, ← hlog, List.filterMap_append, ← hin.accounted.frames]
  · have hone := t.grace_le_one
    omega
  · intro hwatched
    rw [Task.grace_of_watched hwatched] at hle
    apply List.eq_nil_of_length_eq_zero
    omega

/-- A playback is begun, hears two samples and looks for a track, and is stopped while the room publishes the track. -/
def stoppedInPublishing : List Move := .openSession "room" :: Move.started 0 ++ (Move.played 0).take 6 ++ [.stop 0]

/-- The room publishes the track and accepts the first frame, and the playback ends. -/
def publishedLate : List Move := (Move.played 0).drop 6 ++ Move.playedShort 0

/-- One frame is recorded of a playback that was stopped while the room published its track. -/
theorem stops_within_one_frame_of_publishing :
    ∃ st st' t notes, ((System.new .terse).run stoppedInPublishing).studio 0 = some st ∧
      ((System.new .terse).run (stoppedInPublishing ++ publishedLate)).studio 0 = some st' ∧ t ∈ st.tasks ∧
      st.session.isCancelled t.slot = true ∧ st'.log = st.log ++ notes ∧ st.framesBy t.slot = [] ∧
      st'.framesBy t.slot = [[7]] ∧ (notes.filterMap (Note.frameBy t.slot)).length ≤ 1 := by
  have hstopped : (((System.new .terse).run stoppedInPublishing).studio 0).map
      (fun st => (st.tasks.map (·.slot), st.session.isCancelled 1, st.framesBy 1)) = some ([1], true, []) := by
    decide +kernel
  have hended : (((System.new .terse).run (stoppedInPublishing ++ publishedLate)).studio 0).map
      (fun st => st.framesBy 1) = some [[7]] := by
    decide +kernel
  obtain ⟨st, hst, hstopped⟩ := Option.map_eq_some_iff.1 hstopped
  obtain ⟨st', hst', hframes'⟩ := Option.map_eq_some_iff.1 hended
  obtain ⟨htasks, hstopped⟩ := Prod.mk.inj hstopped
  obtain ⟨hcancelled, hframes⟩ := Prod.mk.inj hstopped
  obtain ⟨t, htask, hslot⟩ := List.map_eq_singleton_iff.1 htasks
  have ht : t ∈ st.tasks := htask ▸ List.mem_singleton_self t
  rw [← hslot] at hcancelled hframes hframes'
  obtain ⟨notes, hlog, -, hone, -⟩ :=
    stops_within_one_frame .terse stoppedInPublishing publishedLate 0 hst hst' ht hcancelled
  exact ⟨st, st', t, notes, hst, hst', ht, hcancelled, hlog, hframes, hframes', hone⟩

end System

end Playout
