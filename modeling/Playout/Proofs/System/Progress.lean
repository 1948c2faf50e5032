import Mathlib
import Playout.Proofs.System.Standing

/-!
# A studio seen from its playbacks

For the playbacks of a session there are three kinds of steps: one of them goes on, another one is accepted, or
something happens aside, which may cancel playbacks but takes none of them on (`Studio.Progress`). Aside
nothing touches the lease, the slots stay with whoever holds them, and no note is about a playback
(`Studio.Aside`).
-/

namespace Playout

namespace Studio

variable {config : Config} {st st' : Studio}

/-- Something happens that is no step of a playback. -/
structure Aside (st st' : Studio) : Prop where
  tasks : st'.tasks = st.tasks
  lease : st'.session.lease = st.session.lease
  frameSamples : st'.session.frameSamples = st.session.frameSamples
  inOrder : st.Marked → st.session.SlotsInOrder → st'.session.SlotsInOrder
  ids : st'.session.slots.map (·.id) = st.session.slots.map (·.id)
  isHeld : ∀ i, st'.session.isHeld i = st.session.isHeld i
  isCancelled : ∀ i, st.session.isCancelled i = true → st'.session.isCancelled i = true
  log : ∃ notes, st'.log = st.log ++ notes ∧ ∀ note ∈ notes, note.subject = none

/-- A step of a studio: something aside, another playback, or a step of a playback. -/
inductive Progress (config : Config) (st : Studio) : Studio → Prop
  | aside {st' : Studio} (h : st.Aside st') : Progress config st st'
  | accept (url : Url) (request : Request) : Progress config st (st.accept config url request)
  | play {before behind : List Task} {t t' : Task} {cue : Cue} {s : Session} {m m' : Counters}
      (htasks : st.tasks = before ++ t :: behind) (ht : t.Transition st.session m cue t' s m') :
      Progress config st
        { st with
          session := s
          tasks := before ++ t' :: behind
          log := st.log ++ t.notes st.session cue t' }

theorem Aside.of_sameSlots (htasks : st'.tasks = st.tasks) (hs : st.session.SameSlots st'.session)
    (hlease : st'.session.lease = st.session.lease)
    (hframe : st'.session.frameSamples = st.session.frameSamples)
    (hlog : ∃ notes, st'.log = st.log ++ notes ∧ ∀ note ∈ notes, note.subject = none) : st.Aside st' where
  tasks := htasks
  lease := hlease
  frameSamples := hframe
  inOrder _ := hs.inOrder
  ids := by rw [hs.slots]
  isHeld := hs.isHeld
  isCancelled i hi := by rw [hs.isCancelled, hi]
  log := hlog

theorem log_of_same (h : st'.log = st.log) :
    ∃ notes, st'.log = st.log ++ notes ∧ ∀ note ∈ notes, note.subject = none :=
  ⟨[], by rw [h, List.append_nil], by simp⟩

theorem Aside.of_proceed {before behind : List Session.Call} {c c' : Session.Call} {p : Session.Call.Prompt}
    {s : Session} (hcalls : st.calls = before ++ c :: behind) (hc : c.Transition st.session p c' s) :
    st.Aside { st with session := s, calls := before ++ c' :: behind } := by
  obtain ⟨hslots, hlease, hframe⟩ := hc.same
  have hmem : c ∈ st.calls := by simp [hcalls]
  exact {
    tasks := rfl
    lease := hlease
    frameSamples := hframe
    inOrder := fun h => hc.inOrder (h.closed hmem) (h.revoked c hmem)
    ids := congrArg _ hslots
    isHeld := fun i => by rw [Session.isHeld, Session.isHeld, hslots]
    isCancelled := fun _ => hc.isCancelled
    log := log_of_same rfl }

theorem Step.progress (h : Step config st st') : Progress config st st' := by
  cases h with
  | stop =>
    have hs := st.session.sameTracks_preempt
    exact .aside {
      tasks := rfl
      lease := hs.lease
      frameSamples := hs.frameSamples
      inOrder := fun _ => Session.SlotsInOrder.preempt
      ids := st.session.ids_preempt
      isHeld := st.session.isHeld_preempt
      isCancelled := fun _ => Session.isCancelled_preempt_of_isCancelled
      log := log_of_same rfl }
  | cancel slot =>
    exact .aside {
      tasks := rfl
      lease := rfl
      frameSamples := rfl
      inOrder := fun _ hs => hs.cancel slot
      ids := st.session.ids_cancel slot
      isHeld := st.session.isHeld_cancel slot
      isCancelled := fun _ => Session.isCancelled_cancel_of_isCancelled slot
      log := log_of_same rfl }
  | close | closeTrack => exact .aside (.of_sameSlots rfl .refl rfl rfl (log_of_same rfl))
  | proceed hcalls hc => exact .aside (.of_proceed hcalls (Session.Call.transition_of_step hc))
  | audio => exact .aside (.of_sameSlots rfl ⟨rfl, rfl, rfl, rfl⟩ rfl rfl (log_of_same rfl))
  | accept url request => exact .accept url request
  | track | push => exact .aside (.of_sameSlots rfl .refl rfl rfl (log_of_same rfl))
  | play htasks ht => exact .play htasks (Task.transition_of_step ht)
  | attend herrands he =>
    have ht := Errand.transition_of_step he
    exact .aside (.of_sameSlots rfl ht.sameSlots.1 ht.sameSlots.2 ht.frameSamples
      ⟨_, rfl, fun _ => Errand.subject_of_mem_notes⟩)

end Studio

end Playout
