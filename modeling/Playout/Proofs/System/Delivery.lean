import Mathlib
import Playout.Proofs.Playback.Course
import Playout.Proofs.Source.Blame
import Playout.Proofs.System.Exclusion

/-!
# What a playback delivers

Each playback of a studio keeps its course, whatever happens beside it (`Studio.OnCourse`): what others do is
noted, but not as heard or written by it. So from the way it ended it is clear which frames of its reel the room
has accepted (`System.delivered_frames`).
-/

namespace Playout

theorem Config.frameSamples_pos (config : Config) : 0 < config.frameSamples := Nat.le_max_right _ 1

namespace Studio

variable {config : Config} {st st' : Studio}

/-- What a playback has heard from its decoder, in order. -/
def heardBy (st : Studio) (i : Nat) : List (Option Event) := st.log.filterMap (Note.heardBy i)

/-- The frames that the room has accepted from a playback, in order. -/
def framesBy (st : Studio) (i : Nat) : List Frame := st.log.filterMap (Note.frameBy i)

/-! ## Beside a playback -/

theorem views_of_others {notes : List Note} {i : Nat} (h : ∀ note ∈ notes, note.subject ≠ some i) :
    notes.filterMap (Note.heardBy i) = [] ∧ notes.filterMap (Note.frameBy i) = [] := by
  rw [List.filterMap_eq_nil_iff, List.filterMap_eq_nil_iff]
  constructor
  · intro note hmem
    exact Note.heardBy_of_subject (h note hmem)
  · intro note hmem
    exact Note.frameBy_of_subject (h note hmem)

theorem heardBy_framesBy_of_others {notes : List Note} {i : Nat} (hlog : st'.log = st.log ++ notes)
    (h : ∀ note ∈ notes, note.subject ≠ some i) :
    st'.heardBy i = st.heardBy i ∧ st'.framesBy i = st.framesBy i := by
  obtain ⟨hheard, hframes⟩ := views_of_others h
  constructor
  · rw [heardBy, hlog, List.filterMap_append, hheard, List.append_nil, heardBy]
  · rw [framesBy, hlog, List.filterMap_append, hframes, List.append_nil, framesBy]

/-! ## All playbacks -/

/-- Frames are of the size that is set, notes are about playbacks that there are, and each playback keeps its
course, with every reel that what it heard is the beginning of. -/
structure OnCourse (config : Config) (st : Studio) : Prop where
  frameSamples : st.session.frameSamples = config.frameSamples
  subjects : ∀ note ∈ st.log, ∀ i, note.subject = some i → i ∈ st.tasks.map (·.slot)
  course : ∀ t ∈ st.tasks, ∀ reel : Reel, st.heardBy t.slot <+: reel.cues →
    Task.Course config.frameSamples reel (st.heardBy t.slot) (st.framesBy t.slot) t

namespace OnCourse

theorem new (config : Config) (id : String) : (Studio.new config id).OnCourse config where
  frameSamples := rfl
  subjects := by simp [Studio.new]
  course := by simp [Studio.new]

theorem course_of_others (h : st.OnCourse config) {notes : List Note} {t : Task} (ht : t ∈ st.tasks)
    (hlog : st'.log = st.log ++ notes) (hnotes : ∀ note ∈ notes, note.subject ≠ some t.slot) {reel : Reel}
    (hreel : st'.heardBy t.slot <+: reel.cues) :
    Task.Course config.frameSamples reel (st'.heardBy t.slot) (st'.framesBy t.slot) t := by
  obtain ⟨hheard, hframes⟩ := heardBy_framesBy_of_others hlog hnotes
  rw [hheard] at hreel ⊢
  rw [hframes]
  exact h.course t ht reel hreel

theorem aside (h : st.OnCourse config) (ha : st.Aside st') : st'.OnCourse config := by
  obtain ⟨notes, hlog, hnotes⟩ := ha.log
  refine ⟨ha.frameSamples.trans h.frameSamples, ?_, ?_⟩
  · intro note hmem i hi
    rw [hlog, List.mem_append] at hmem
    rw [ha.tasks]
    rcases hmem with hmem | hmem
    · exact h.subjects note hmem i hi
    · cases (hnotes note hmem).symm.trans hi
  · intro t ht reel hreel
    rw [ha.tasks] at ht
    have hothers : ∀ note ∈ notes, note.subject ≠ some t.slot := by
      intro note hmem
      simp [hnotes note hmem]
    exact h.course_of_others ht hlog hothers hreel

theorem accept (h : st.OnCourse config) (hplaced : st.Placed) (url : Url) (request : Request) :
    (st.accept config url request).OnCourse config := by
  have hlog : (st.accept config url request).log = st.log ++ [] := (List.append_nil _).symm
  refine ⟨st.session.sameTracks_begin.frameSamples.trans h.frameSamples, ?_, ?_⟩
  · intro note hmem i hi
    rw [Studio.accept, List.map_append, List.mem_append]
    exact .inl (h.subjects note hmem i hi)
  · intro t ht reel hreel
    rcases List.mem_append.1 ht with ht | ht
    · exact h.course_of_others ht hlog (by simp) hreel
    · -- nothing is noted about a playback that was just begun
      obtain rfl := List.mem_singleton.1 ht
      have hnone : ∀ note ∈ st.log, note.subject ≠ some st.session.begin.1 := by
        intro note hmem hsubject
        obtain ⟨u, hu, hslot⟩ := List.mem_map.1 (h.subjects note hmem _ hsubject)
        exact hplaced.slot_ne_begin hu hslot
      obtain ⟨hheard, hframes⟩ := views_of_others hnone
      have hcourse := Task.Course.new config st.session.begin.1 url request (Config.frameSamples_pos config) reel
      rw [← hheard, ← hframes] at hcourse
      exact hcourse

theorem play {before behind : List Task} {t t' : Task} {cue : Cue} {s : Session} {m m' : Counters}
    (h : st.OnCourse config) (hplaced : st.Placed) (htasks : st.tasks = before ++ t :: behind)
    (ht : t.Transition st.session m cue t' s m') :
    OnCourse config
      { st with
        session := s
        tasks := before ++ t' :: behind
        log := st.log ++ t.notes st.session cue t' } := by
  have hslot := ht.same.slot
  have hmem : t ∈ st.tasks := htasks ▸ mem_replaced.2 (.inl rfl)
  refine ⟨ht.frameSamples.trans h.frameSamples, ?_, ?_⟩
  · intro note hnote i hi
    rw [slots_replaced hslot, ← htasks]
    rcases List.mem_append.1 hnote with hnote | hnote
    · exact h.subjects note hnote i hi
    · obtain rfl := Option.some.inj ((Task.subject_of_mem_notes hnote).symm.trans hi)
      exact List.mem_map_of_mem hmem
  · intro u hu reel hreel
    rcases mem_replaced.1 hu with rfl | hu
    · rw [hslot] at hreel ⊢
      simp only [heardBy, framesBy, List.filterMap_append] at hreel ⊢
      have hcourse := h.course t hmem reel ((List.prefix_append _ _).trans hreel)
      rw [← h.frameSamples] at hcourse ⊢
      exact ht.course (h.frameSamples ▸ Config.frameSamples_pos config) hcourse hreel
    · have hne := slot_ne_of_others (htasks ▸ hplaced.nodup) hu
      have hothers : ∀ note ∈ t.notes st.session cue t', note.subject ≠ some u.slot := by
        intro note hnote hsubject
        apply hne
        exact Option.some.inj (hsubject.symm.trans (Task.subject_of_mem_notes hnote))
      exact h.course_of_others (htasks ▸ mem_of_others hu) rfl hothers hreel

theorem step (h : st.OnCourse config) (hplaced : st.Placed) (hs : Step config st st') : st'.OnCourse config := by
  cases hs.progress with
  | aside ha => exact h.aside ha
  | accept url request => exact h.accept hplaced url request
  | play htasks ht => exact h.play hplaced htasks ht

end OnCourse

theorem Reachable.onCourse (h : Reachable config st) : st.OnCourse config := by
  suffices hall : st.InOrder ∧ st.OnCourse config from hall.2
  apply h.induction (P := fun st => st.InOrder ∧ st.OnCourse config)
  · intro id
    exact ⟨.new config id, .new config id⟩
  · intro st st' h hs
    exact ⟨h.1.step hs, h.2.step h.1.placed hs⟩

/-! ## On the track -/

theorem sublist_filterMap {α β : Type} {f g : α → Option β} {l : List α}
    (h : ∀ a ∈ l, ∀ b, f a = some b → g a = some b) : (l.filterMap f).Sublist (l.filterMap g) := by
  induction l with
  | nil => exact .slnil
  | cons a l ih =>
    have hrest := ih fun a' ha' => h a' (List.mem_cons_of_mem a ha')
    cases hf : f a with
    | none =>
      rw [List.filterMap_cons_none hf]
      exact hrest.trans ((List.sublist_cons_self a l).filterMap g)
    | some b =>
      rw [List.filterMap_cons_some hf, List.filterMap_cons_some (h a List.mem_cons_self b hf)]
      exact hrest.cons_cons b

theorem InOrder.framesBy_sublist (h : st.InOrder) {t : Task} (ht : t ∈ st.tasks) (hne : st.framesBy t.slot ≠ []) :
    ∃ k, t.track = some k ∧ (st.framesBy t.slot).Sublist (st.session.room.framesOf k) := by
  have hown : ∀ k frame, .recorded (some t.slot) k frame ∈ st.log → t.track = some k := by
    intro k frame hnote
    obtain ⟨u, hu, hslot, htrack⟩ := h.accounted.written _ k frame hnote
    rwa [← h.placed.eq_of_slot hu ht hslot]
  obtain ⟨frame, hframe⟩ := List.exists_mem_of_ne_nil _ hne
  obtain ⟨note, hnote, hview⟩ := List.mem_filterMap.1 hframe
  obtain ⟨k, rfl⟩ := Note.recorded_of_frameBy hview
  refine ⟨k, hown k frame hnote, ?_⟩
  rw [h.accounted.frames]
  apply sublist_filterMap
  intro note' hmem frame' hview'
  obtain ⟨k', rfl⟩ := Note.recorded_of_frameBy hview'
  obtain rfl : k' = k := Option.some.inj ((hown k' frame' hmem).symm.trans (hown k frame hnote))
  exact if_pos rfl

end Studio

namespace System

/-- **What a playback delivers.** Completed, it has delivered all frames of its reel and reports all samples; cancelled,
the first of them, and the samples in these; failed, the first of them too, and if its decoder failed exactly those that
are complete. They stand in order on its track. -/
theorem delivered_frames (config : Config) (moves : List Move) (n : Nat) {st : Studio}
    (hst : ((System.new config).run moves).studio n = some st) {t : Task} (ht : t ∈ st.tasks) {reel : Reel}
    (hreel : st.heardBy t.slot <+: reel.cues) {ending : Ending} (hended : t.ending? = some ending) :
    (∀ count, ending = .ok (.completed count) →
      st.framesBy t.slot = Pcm.pieces config.frameSamples (reel.conditioned t.volume) ∧
      count = (reel.conditioned t.volume).length) ∧
    (∀ count, ending = .ok (.cancelled count) →
      st.framesBy t.slot <+: Pcm.pieces config.frameSamples (reel.conditioned t.volume) ∧
      count = ((st.framesBy t.slot).map List.length).sum) ∧
    (∀ cause, ending = .error cause →
      st.framesBy t.slot <+: Pcm.pieces config.frameSamples (reel.conditioned t.volume) ∧
      (∀ cause', some (.failed cause') ∈ st.heardBy t.slot →
        cause = cause' ∧
        st.framesBy t.slot =
          (Pcm.pieces config.frameSamples (reel.conditioned t.volume)).take
            ((reel.conditioned t.volume).length / config.frameSamples)) ∧
      ∀ reason, cause = .internal reason →
        some (.failed cause) ∈ st.heardBy t.slot ∧
        ∀ format source readChunkBytes, reel.reports ≠ Event.feed format source readChunkBytes) ∧
    (st.framesBy t.slot ≠ [] →
      ∃ k, t.track = some k ∧ (st.framesBy t.slot).Sublist (st.session.room.framesOf k)) := by
  have hreachable := reachable_of_run hst
  have hsize := config.frameSamples_pos
  have hsettled := (hreachable.onCourse.course t ht reel hreel).settled_of (Task.outcome_of_ending hended)
  refine ⟨?_, ?_, ?_, hreachable.inOrder.framesBy_sublist ht⟩
  · rintro count rfl
    cases hsettled with
    | completed hframes => exact ⟨hframes, rfl⟩
  · rintro count rfl
    cases hsettled with
    | cancelled hframes => exact ⟨hframes, rfl⟩
  · rintro cause rfl
    cases hsettled with
    | reported hframes hheard =>
      have htake := Pcm.wholeFrames_eq_take hsize (reel.conditioned t.volume)
      refine ⟨?_, ?_, ?_⟩
      · rw [hframes, htake]
        exact List.take_prefix _ _
      · intro cause' hmem
        exact ⟨((hheard cause').1 hmem).symm, hframes.trans htake⟩
      · intro reason hcause
        have hmem := (hheard cause).2 rfl
        refine ⟨hmem, ?_⟩
        intro format source readChunkBytes hfeed
        have hreported : .failed cause ∈ reel.reports := by simpa [Reel.cues] using hreel.subset hmem
        rw [hfeed, hcause] at hreported
        cases ofSource_of_mem_feed hreported
    | failed hframes hheard hcause =>
      refine ⟨hframes, ?_, ?_⟩
      · intro cause' hmem
        exact absurd hmem (hheard cause')
      · intro reason heq
        exact absurd heq (hcause reason)

theorem delivered_frames_of_completed :
    ∃ st t, ((System.new .terse).run Move.once).studio 0 = some st ∧ t ∈ st.tasks ∧
      t.ending? = some (.ok (.completed 2)) ∧
      st.framesBy 1 = Pcm.pieces 1 ((Reel.played ⟨16000, 1⟩ [[7, 8]] none).conditioned t.volume) := by
  have hrun : (((System.new .terse).run Move.once).studio 0).map
      (fun st => (st.tasks.map fun t => (t.slot, t.ending?), st.heardBy 1)) =
      some ([(1, some (.ok (.completed 2)))], (Reel.played ⟨16000, 1⟩ [[7, 8]] none).cues) := by
    decide +kernel
  obtain ⟨st, hst, hrun⟩ := Option.map_eq_some_iff.1 hrun
  obtain ⟨htasks, hheard⟩ := Prod.mk.inj hrun
  obtain ⟨t, htask, hended⟩ := List.map_eq_singleton_iff.1 htasks
  obtain ⟨hslot, hended⟩ := Prod.mk.inj hended
  have ht : t ∈ st.tasks := htask ▸ List.mem_singleton_self t
  have hreel : st.heardBy t.slot <+: (Reel.played ⟨16000, 1⟩ [[7, 8]] none).cues := by rw [hslot, hheard]
  obtain ⟨hframes, -⟩ := (delivered_frames .terse Move.once 0 hst ht hreel hended).1 2 rfl
  rw [hslot] at hframes
  exact ⟨st, t, hst, ht, hended, hframes⟩

end System

end Playout
