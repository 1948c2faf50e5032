import Mathlib
import Playout.Proofs.System.Tracks

/-!
# Every track of a studio is accounted for

In every studio that can come about each open track is answered for by one party, each playback's track is
closed, on the map or about to be closed by the playback or a call, and the log tells what the room saw: which
playback wrote to which track, and which frames each track accepted (`Studio.Accounted`).
-/

namespace Playout

/-! ## Frames are noted -/

namespace Task

variable {s s' : Session} {m m' : Counters} {t t' : Task} {cue : Cue}

theorem frames_of_notes (hstage : ∀ suspended, t.stage ≠ .writing suspended false) (k : Handle) :
    (t.notes s cue t').filterMap (Note.frameOn k) = [] := by
  unfold notes
  split
  · split <;> rfl
  · split <;> rfl
  · split <;> rfl
  · split <;> rfl
  · next h => exact absurd h (hstage _)
  · rfl

theorem Transition.frames (h : Transition s m t cue t' s' m') (k : Handle) :
    s'.room.framesOf k = s.room.framesOf k ++ (t.notes s cue t').filterMap (Note.frameOn k) := by
  have hsame : (∀ suspended, t.stage ≠ .writing suspended false) → s'.room.framesOf k = s.room.framesOf k →
      s'.room.framesOf k = s.room.framesOf k ++ (t.notes s cue t').filterMap (Note.frameOn k) := by
    intro hstage hroom
    rw [frames_of_notes hstage, List.append_nil, hroom]
  cases h with
  | stopWriting hstage | suspend hstage | resume hstage | unwritten hstage =>
    simp [notes, hstage, stopped, failed, enter]
  | recorded hstage _ htrack htodo hopen =>
    rw [Room.framesOf_record _ hopen]
    simp only [notes, hstage, enter, htrack, htodo, List.filterMap_cons, List.filterMap_nil, Note.frameOn]
    split <;> rfl
  | obtaining hstage _ ho | obtained hstage _ ho | unobtained hstage _ ho =>
    exact hsame (by simp [hstage]) (ho.framesOf k)
  | silenced hstage => exact hsame (by simp [hstage]) (s.room.framesOf_closeTrack _ k)
  | retired hstage => exact hsame (by simp [hstage]) (by rw [(s.sameTracks_finish _).room])
  | _ hstage => exact hsame (by simp [hstage]) rfl

end Task

theorem Errand.Transition.frames {s s' : Session} {e e' : Errand} (h : Errand.Transition s e e' s') (k : Handle) :
    s'.room.framesOf k = s.room.framesOf k ++ (e.notes e').filterMap (Note.frameOn k) := by
  cases h with
  | obtain ho _ _ hnotes => rw [hnotes, List.append_nil, ho.framesOf]
  | record hopen _ _ hnotes =>
    rw [Room.framesOf_record _ hopen, hnotes]
    simp only [List.filterMap_cons, List.filterMap_nil, Note.frameOn]
    split <;> rfl
  | rest _ _ hnotes => rw [hnotes, List.filterMap_nil, List.append_nil]

namespace Studio

variable {config : Config} {st st' : Studio}

/-! ## The account -/

/-- The tracks in hand somewhere in a studio. -/
def hands (st : Studio) : List Handle :=
  st.tasks.flatMap Task.hands ++ (st.errands.flatMap Errand.hands ++ st.calls.flatMap Session.Call.hands)

/-- Every open track is answered for, the track of each playback is closed or will be, and the log is right
about tracks and frames. -/
structure Accounted (st : Studio) : Prop where
  custody : st.session.Custody st.hands
  seeking : ∀ t ∈ st.tasks, t.Seeking
  keeps : ∀ t ∈ st.tasks, ∀ h, t.track = some h → st.session.Keeps st.calls t h
  written : ∀ i h frame, .recorded (some i) h frame ∈ st.log → ∃ t ∈ st.tasks, t.slot = i ∧ t.track = some h
  frames : ∀ h, st.session.room.framesOf h = st.log.filterMap (Note.frameOn h)

namespace Accounted

theorem new (config : Config) (id : String) : (Studio.new config id).Accounted where
  custody := .new config id
  seeking := by simp [Studio.new]
  keeps := by simp [Studio.new]
  written := by simp [Studio.new]
  frames h := by simp [Studio.new, Session.new, Room.framesOf]

theorem of_sameTracks (h : st.Accounted) (hs : st.session.SameTracks st'.session) (htasks : st'.tasks = st.tasks)
    (hlog : st'.log = st.log) (hhands : st'.hands = st.hands) (hcalls : st.calls ⊆ st'.calls) : st'.Accounted where
  custody := by
    rw [hhands]
    exact h.custody.of_same hs.tracks hs.room
  seeking := by
    rw [htasks]
    exact h.seeking
  keeps t ht k htrack := (h.keeps t (htasks ▸ ht) k htrack).of_same hs hcalls
  written := by
    rw [htasks, hlog]
    exact h.written
  frames k := by rw [hs.room, hlog, h.frames]

theorem accept (h : st.Accounted) (url : Url) (request : Request) : (st.accept config url request).Accounted := by
  have hs := st.session.sameTracks_begin
  refine ⟨?_, ?_, ?_, ?_, ?_⟩
  · have hhands : (st.accept config url request).hands = st.hands := by
      simp [Studio.hands, Studio.accept, Task.hands, Task.new, Task.Stage.hands]
    rw [hhands]
    exact h.custody.of_same hs.tracks hs.room
  · intro t ht
    rcases List.mem_append.1 ht with ht | ht
    · exact h.seeking t ht
    · obtain rfl := List.mem_singleton.1 ht
      intro o hstage
      cases hstage
  · intro t ht k htrack
    rcases List.mem_append.1 ht with ht | ht
    · exact (h.keeps t ht k htrack).of_same hs (List.Subset.refl _)
    · obtain rfl := List.mem_singleton.1 ht
      cases htrack
  · intro i k frame hmem
    obtain ⟨t, ht, heq⟩ := h.written i k frame hmem
    exact ⟨t, List.mem_append_left _ ht, heq⟩
  · intro k
    have hroom : (st.accept config url request).session.room = st.session.room := hs.room
    rw [hroom, h.frames]
    rfl

theorem perm_flatMap {α : Type} (f : α → List Handle) (before behind : List α) (a : α) (rest : List Handle) :
    ((before ++ a :: behind).flatMap f ++ rest).Perm (f a ++ ((before ++ behind).flatMap f ++ rest)) := by
  have hmiddle : (before ++ a :: behind).Perm (a :: (before ++ behind)) := List.perm_middle
  have hp := hmiddle.flatMap_right f
  rw [List.flatMap_cons] at hp
  rw [← List.append_assoc]
  exact hp.append_right rest

theorem play {before behind : List Task} {t t' : Task} {cue : Cue} {s : Session} {m m' : Counters}
    (h : st.Accounted) (hplaced : st.Placed) (hqueued : st.Queued) (htasks : st.tasks = before ++ t :: behind)
    (ht : t.Transition st.session m cue t' s m') :
    Accounted
      { st with
        session := s
        tasks := before ++ t' :: behind
        log := st.log ++ t.notes st.session cue t' } := by
  have hslot := ht.same.slot
  have hmem : t ∈ st.tasks := htasks ▸ mem_replaced.2 (.inl rfl)
  have hothers : ∀ u ∈ before ++ behind, u ∈ st.tasks ∧ u.slot ≠ t.slot := by
    intro u hu
    exact ⟨htasks ▸ mem_of_others hu, slot_ne_of_others (htasks ▸ hplaced.nodup) hu⟩
  have hcustody : st.session.Custody (t.hands ++ ((before ++ behind).flatMap Task.hands ++
      (st.errands.flatMap Errand.hands ++ st.calls.flatMap Session.Call.hands))) := by
    apply h.custody.perm
    rw [Studio.hands, htasks]
    exact perm_flatMap Task.hands before behind t _
  refine ⟨?_, ?_, ?_, ?_, ?_⟩
  · exact (hcustody.handling ht.handling).perm (perm_flatMap Task.hands before behind t' _).symm
  · intro u hu
    rcases mem_replaced.1 hu with rfl | hu
    · exact ht.seeking (h.seeking t hmem)
    · exact h.seeking u (hothers u hu).1
  · intro u hu k htrack
    rcases mem_replaced.1 hu with rfl | hu
    · exact ht.keeps hcustody (h.keeps t hmem) k htrack
    · obtain ⟨hu, hne⟩ := hothers u hu
      apply (h.keeps u hu k htrack).mono ht.handling.hasClosed ?_ .inl
      intro hworking hlisted
      -- while one works, the others leave the map alone
      have hidle : t.phase ≠ .working := by
        intro hphase
        exact hne (congrArg Task.slot (hqueued.eq_of_working hplaced hu hmem hworking hphase))
      rw [(ht.room_of_idle hidle).1]
      exact .inl hlisted
  · intro i k frame hnote
    have hkept : ∀ u ∈ st.tasks, u.slot = i → u.track = some k →
        ∃ u' ∈ before ++ t' :: behind, u'.slot = i ∧ u'.track = some k := by
      intro u hu hui htrack
      rw [htasks] at hu
      rcases mem_replaced.1 hu with rfl | hu
      · exact ⟨t', mem_replaced.2 (.inl rfl), hslot.trans hui, ht.track_of_some (h.seeking u hmem) htrack⟩
      · exact ⟨u, mem_replaced.2 (.inr hu), hui, htrack⟩
    rcases List.mem_append.1 hnote with hnote | hnote
    · obtain ⟨u, hu, hui, htrack⟩ := h.written i k frame hnote
      exact hkept u hu hui htrack
    · obtain ⟨hwriter, htrack, -⟩ := Task.recorded_of_mem_notes hnote
      exact hkept t hmem (Option.some.inj hwriter).symm htrack
  · intro k
    rw [ht.frames, h.frames, List.filterMap_append]

theorem attend {before behind : List Errand} {e e' : Errand} {s : Session} (h : st.Accounted)
    (herrands : st.errands = before ++ e :: behind) (he : e.Transition st.session e' s) :
    Accounted
      { st with
        session := s
        errands := before ++ e' :: behind
        log := st.log ++ e.notes e' } := by
  have hperm : ∀ e₀, (st.tasks.flatMap Task.hands ++
      ((before ++ e₀ :: behind).flatMap Errand.hands ++ st.calls.flatMap Session.Call.hands)).Perm
      (e₀.hands ++ ((before ++ behind).flatMap Errand.hands ++
        (st.calls.flatMap Session.Call.hands ++ st.tasks.flatMap Task.hands))) := by
    intro e₀
    refine List.perm_append_comm.trans ?_
    rw [List.append_assoc]
    exact perm_flatMap Errand.hands before behind e₀ _
  have hcustody : st.session.Custody (e.hands ++ ((before ++ behind).flatMap Errand.hands ++
      (st.calls.flatMap Session.Call.hands ++ st.tasks.flatMap Task.hands))) := by
    apply h.custody.perm
    rw [Studio.hands, herrands]
    exact hperm e
  refine ⟨(hcustody.handling he.handling).perm (hperm e').symm, h.seeking, ?_, ?_, ?_⟩
  · intro t ht k htrack
    apply (h.keeps t ht k htrack).mono he.handling.hasClosed ?_ .inl
    intro _ hlisted
    exact .inl (he.mem_tracks hlisted)
  · intro i k frame hnote
    rcases List.mem_append.1 hnote with hnote | hnote
    · exact h.written i k frame hnote
    · cases Errand.subject_of_mem_notes hnote
  · intro k
    rw [he.frames, h.frames, List.filterMap_append]

theorem proceed {before behind : List Session.Call} {c c' : Session.Call} {p : Session.Call.Prompt} {s : Session}
    (h : st.Accounted) (hcalls : st.calls = before ++ c :: behind) (hc : c.Transition st.session p c' s) :
    Accounted { st with session := s, calls := before ++ c' :: behind } := by
  have hperm : ∀ c₀, (st.tasks.flatMap Task.hands ++
      (st.errands.flatMap Errand.hands ++ (before ++ c₀ :: behind).flatMap Session.Call.hands)).Perm
      (c₀.hands ++ ((before ++ behind).flatMap Session.Call.hands ++
        (st.tasks.flatMap Task.hands ++ st.errands.flatMap Errand.hands))) := by
    intro c₀
    rw [← List.append_assoc]
    exact List.perm_append_comm.trans (perm_flatMap Session.Call.hands before behind c₀ _)
  have hcustody : st.session.Custody (c.hands ++ ((before ++ behind).flatMap Session.Call.hands ++
      (st.tasks.flatMap Task.hands ++ st.errands.flatMap Errand.hands))) := by
    apply h.custody.perm
    rw [Studio.hands, hcalls]
    exact hperm c
  have hnew : ∀ {k}, k ∈ c'.closes → Session.Handed (before ++ c' :: behind) k :=
    fun hk => ⟨c', mem_replaced.2 (.inl rfl), hk⟩
  refine ⟨(hc.custody hcustody).perm (hperm c').symm, h.seeking, ?_, h.written, ?_⟩
  · intro t ht k htrack
    refine (h.keeps t ht k htrack).mono hc.hasClosed ?_ ?_
    · intro _ hlisted
      exact (hc.mem_tracks_or_closes h.custody.names hlisted).imp_right hnew
    · rintro ⟨d, hd, hk⟩
      rw [hcalls] at hd
      rcases mem_replaced.1 hd with rfl | hd
      · -- what is in hand is open
        have hopen := hcustody.isOpen k (List.mem_append_right _ (List.mem_append_left _ (d.closes_subset hk)))
        exact (hc.closes_or_hasClosed hopen hk).imp_left hnew
      · exact .inl ⟨d, mem_of_others hd, hk⟩
  · intro k
    rw [hc.framesOf, h.frames]

theorem step (h : st.Accounted) (hplaced : st.Placed) (hqueued : st.Queued) (hs : Step config st st') :
    st'.Accounted := by
  have hrefl : st.calls ⊆ st.calls := List.Subset.refl _
  cases hs with
  | stop => exact h.of_sameTracks st.session.sameTracks_preempt rfl rfl rfl hrefl
  | cancel slot => exact h.of_sameTracks (st.session.sameTracks_cancel slot) rfl rfl rfl hrefl
  | audio audio => exact h.of_sameTracks ⟨rfl, rfl, rfl, rfl⟩ rfl rfl rfl hrefl
  | accept url request => exact h.accept url request
  | close | closeTrack name =>
    refine h.of_sameTracks ⟨rfl, rfl, rfl, rfl⟩ rfl rfl ?_ (List.subset_append_left _ _)
    simp [Studio.hands, Session.Call.hands]
  | track name =>
    refine h.of_sameTracks ⟨rfl, rfl, rfl, rfl⟩ rfl rfl ?_ hrefl
    simp [Studio.hands, Errand.hands, Obtain.hands]
  | push name pcm =>
    refine h.of_sameTracks ⟨rfl, rfl, rfl, rfl⟩ rfl rfl ?_ hrefl
    simp [Studio.hands, Errand.hands_push_new]
  | play htasks ht => exact h.play hplaced hqueued htasks (Task.transition_of_step ht)
  | attend herrands he => exact h.attend herrands (Errand.transition_of_step he)
  | proceed hcalls hc => exact h.proceed hcalls (Session.Call.transition_of_step hc)

end Accounted

end Studio

end Playout
