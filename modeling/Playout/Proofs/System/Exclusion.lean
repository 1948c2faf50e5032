import Mathlib
import Playout.Proofs.System.Accounted

/-!
# One playback at a time

Whatever is started, stopped, cancelled, closed and delivered in whichever order, playbacks of one session do
not get into each other's way (`System.playbacks_take_turns`).
-/

namespace Playout

namespace Studio

variable {config : Config} {st st' : Studio} {i : Nat}

/-! ## Tracks of those before -/

/-- While a playback works, the tracks of the others are closed, but for those that calls are closing. -/
def Cleared (st : Studio) : Prop :=
  ∀ t ∈ st.tasks, t.phase = .working → ∀ u ∈ st.tasks, u.slot ≠ t.slot → ∀ k, u.track = some k →
    st.session.room.hasClosed k = true ∨ .silencing k ∈ st.calls

namespace Cleared

theorem new (config : Config) (id : String) : (Studio.new config id).Cleared := by
  simp [Cleared, Studio.new]

theorem of_tasks (h : st.Cleared) (htasks : st'.tasks = st.tasks)
    (hclosed : ∀ k, st.session.room.hasClosed k = true → st'.session.room.hasClosed k = true)
    (hcalls : ∀ k, .silencing k ∈ st.calls → st'.session.room.hasClosed k = true ∨ .silencing k ∈ st'.calls) :
    st'.Cleared := by
  unfold Cleared
  rw [htasks]
  intro t ht hworking u hu hne k htrack
  rcases h t ht hworking u hu hne k htrack with hc | hmem
  · exact .inl (hclosed k hc)
  · exact hcalls k hmem

theorem of_room (h : st.Cleared) (htasks : st'.tasks = st.tasks) (hroom : st'.session.room = st.session.room)
    (hcalls : st.calls ⊆ st'.calls) : st'.Cleared :=
  h.of_tasks htasks (fun k hc => by rwa [hroom]) fun _ hmem => .inr (hcalls hmem)

theorem accept (h : st.Cleared) (url : Url) (request : Request) : (st.accept config url request).Cleared := by
  have hroom : (st.accept config url request).session.room = st.session.room := st.session.sameTracks_begin.room
  unfold Cleared
  rw [hroom]
  intro t ht hworking u hu hne k htrack
  rcases List.mem_append.1 ht with ht | ht
  · rcases List.mem_append.1 hu with hu | hu
    · exact h t ht hworking u hu hne k htrack
    · obtain rfl := List.mem_singleton.1 hu
      cases htrack
  · obtain rfl := List.mem_singleton.1 ht
    cases hworking

theorem proceed {before behind : List Session.Call} {c c' : Session.Call} {p : Session.Call.Prompt} {s : Session}
    (h : st.Cleared) (hcustody : st.session.Custody st.hands) (hcalls : st.calls = before ++ c :: behind)
    (hc : c.Transition st.session p c' s) :
    Cleared { st with session := s, calls := before ++ c' :: behind } := by
  refine h.of_tasks rfl (fun _ => hc.hasClosed) ?_
  intro k hk
  have hhand : k ∈ st.hands := by
    refine List.mem_append_right _ (List.mem_append_right _ (List.mem_flatMap.2 ⟨_, hk, ?_⟩))
    exact List.mem_singleton.2 rfl
  rw [hcalls] at hk
  rcases mem_replaced.1 hk with rfl | hk
  · cases hc
    exact .inl (Room.hasClosed_closeTrack_self (hcustody.isOpen k (List.mem_append_right _ hhand)))
  · exact .inr (mem_of_others hk)

theorem play {before behind : List Task} {t t' : Task} {cue : Cue} {s : Session} {m m' : Counters}
    (h : st.Cleared) (hmarked : st.Marked) (hplaced : st.Placed) (hqueued : st.Queued) (haccounted : st.Accounted)
    (htasks : st.tasks = before ++ t :: behind) (ht : t.Transition st.session m cue t' s m') (log : List Note) :
    Cleared { st with session := s, tasks := before ++ t' :: behind, log } := by
  have hmem : t ∈ st.tasks := htasks ▸ mem_replaced.2 (.inl rfl)
  have hslot := ht.same.slot
  have hothers : ∀ u ∈ before ++ behind, u ∈ st.tasks ∧ u.slot ≠ t.slot := by
    intro u hu
    exact ⟨htasks ▸ mem_of_others hu, slot_ne_of_others (htasks ▸ hplaced.nodup) hu⟩
  have hclosed : ∀ k, st.session.room.hasClosed k = true ∨ .silencing k ∈ st.calls →
      s.room.hasClosed k = true ∨ .silencing k ∈ st.calls := fun _ hk => hk.imp_left ht.handling.hasClosed
  intro x hx hworking u hu hne k htrack
  rcases mem_replaced.1 hx with rfl | hx' <;> rcases mem_replaced.1 hu with rfl | hu'
  · exact absurd rfl hne
  · obtain ⟨hmem', hne'⟩ := hothers u hu'
    apply hclosed
    rcases ht.turn.working hworking with hearly | hwas
    · -- it gets the lease: nobody works, and no token is cancelled
      have hidle : u.phase ≠ .working := by
        intro huw
        have hplaced' := hplaced.play htasks ht log
        have heq := (hqueued.play hplaced htasks ht log).eq_of_working hplaced' hx hu hworking huw
        exact hne (heq ▸ rfl)
      rcases (haccounted.keeps u hmem' k htrack).closed_of_idle hidle with hc | ⟨c, hc, hk⟩
      · exact .inl hc
      · have hrevoked : c.revoked ≠ true := by
          intro hr
          have hlive := ht.turn.live hearly hworking
          rw [Session.isCancelled_of_revoked (hmarked.revoked c hc hr)] at hlive
          cases hlive
        cases c with
        | silencing =>
          obtain rfl := List.mem_singleton.1 hk
          exact .inr hc
        | muting => exact absurd rfl hrevoked
        | _ => cases hk
    · exact h t hmem hwas u hmem' hne' k htrack
  · obtain ⟨hmem', hne'⟩ := hothers x hx'
    have hidle : t.phase ≠ .working := by
      intro htw
      exact hne' (congrArg Task.slot (hqueued.eq_of_working hplaced hmem' hmem hworking htw))
    apply hclosed
    refine h x hmem' hworking t hmem hne'.symm k ?_
    rcases ht.track with heq | ⟨o, hstage⟩
    · rwa [← heq]
    · exact absurd (Task.phase_of_stage hstage) hidle
  · exact hclosed k (h x (hothers x hx').1 hworking u (hothers u hu').1 hne k htrack)

theorem step (h : st.Cleared) (hmarked : st.Marked) (hplaced : st.Placed) (hqueued : st.Queued)
    (haccounted : st.Accounted) (hs : Step config st st') : st'.Cleared := by
  have hrefl : st.calls ⊆ st.calls := List.Subset.refl _
  cases hs with
  | stop => exact h.of_room rfl st.session.sameTracks_preempt.room hrefl
  | cancel slot => exact h.of_room rfl (st.session.sameTracks_cancel slot).room hrefl
  | audio | track | push => exact h.of_room rfl rfl hrefl
  | close | closeTrack => exact h.of_room rfl rfl (List.subset_append_left _ _)
  | accept url request => exact h.accept url request
  | play htasks ht => exact h.play hmarked hplaced hqueued haccounted htasks (Task.transition_of_step ht) _
  | attend _ he =>
    exact h.of_tasks rfl (fun _ => (Errand.transition_of_step he).handling.hasClosed) fun _ hmem => .inr hmem
  | proceed hcalls hc => exact h.proceed haccounted.custody hcalls (Session.Call.transition_of_step hc)

end Cleared

/-- What is kept by every step of a studio. -/
structure InOrder (st : Studio) : Prop where
  marked : st.Marked
  placed : st.Placed
  queued : st.Queued
  turns : st.Turns
  accounted : st.Accounted
  cleared : st.Cleared

theorem InOrder.new (config : Config) (id : String) : (Studio.new config id).InOrder :=
  ⟨.new config id, .new config id, .new config id, .new config id, .new config id, .new config id⟩

theorem InOrder.step (h : st.InOrder) (hs : Step config st st') : st'.InOrder where
  marked := h.marked.step hs
  placed := h.placed.progress h.marked hs.progress
  queued := h.queued.progress h.placed hs.progress
  turns := h.turns.progress h.placed h.queued hs.progress
  accounted := h.accounted.step h.placed h.queued hs
  cleared := h.cleared.step h.marked h.placed h.queued h.accounted hs

theorem Reachable.inOrder (h : Reachable config st) : st.InOrder :=
  h.induction (InOrder.new config) fun _ _ h => h.step

/-! ## Cancelled before its turn -/

/-- A playback was cancelled before it got the lease. -/
def Barred (st : Studio) (i : Nat) : Prop := st.session.isCancelled i = true ∧ i ∉ st.acquirers

theorem Barred.step (h : st.Barred i) (hs : Step config st st') : st'.Barred i := by
  obtain ⟨hc, hnot⟩ := h
  cases hs.progress with
  | aside ha => exact ⟨ha.isCancelled i hc, by rwa [ha.acquirers]⟩
  | accept url request =>
    refine ⟨?_, hnot⟩
    rw [Studio.accept, Session.isCancelled_begin]
    exact Session.isCancelled_preempt_of_isCancelled hc
  | @play before behind t t' cue s m m' htasks ht =>
    refine ⟨ht.turn.isCancelled hc, ?_⟩
    rw [acquirers, List.filterMap_append, ht.acquirers, List.mem_append, not_or]
    refine ⟨hnot, ?_⟩
    intro hmem
    split at hmem
    · next hgot =>
      -- the token is looked at before the lease is taken
      rw [List.mem_singleton.1 hmem, ht.turn.live hgot.1 hgot.2] at hc
      cases hc
    · cases hmem

theorem Barred.steps (h : st.Barred i) (hs : Relation.ReflTransGen (Step config) st st') : st'.Barred i := by
  induction hs with
  | refl => exact h
  | tail _ hs ih => exact ih.step hs

/-! ## Delivering -/

theorem Step.log (h : Step config st st') :
    ∃ notes, st'.log = st.log ++ notes ∧
      ∀ note ∈ notes, ∀ j, note.deliverer = some j → ∃ t ∈ st.tasks, t.slot = j ∧ t.phase = .working := by
  cases h.progress with
  | aside ha =>
    obtain ⟨notes, hlog, hnotes⟩ := ha.log
    refine ⟨notes, hlog, ?_⟩
    intro note hmem j hj
    cases (Note.deliverer_of_subject (hnotes note hmem)).symm.trans hj
  | accept url request => exact ⟨[], (List.append_nil _).symm, by simp⟩
  | @play before behind t t' cue s m m' htasks ht =>
    refine ⟨_, rfl, ?_⟩
    intro note hmem j hj
    obtain ⟨rfl, hworking⟩ := Turns.deliverer_play hmem hj
    exact ⟨t, htasks ▸ mem_replaced.2 (.inl rfl), rfl, hworking⟩

end Studio

namespace System

/-! ## Closing one track -/

theorem closeTrack_of_run (σ : System) (moves : List Move) {n : Nat} {c : Session.Call} (hc : c.closesTrack = true)
    (hmem : (n, c) ∈ (σ.run moves).calls) :
    (∃ d, d.closesTrack = true ∧ (n, d) ∈ σ.calls) ∨ ∃ name, .closeTrack n name ∈ moves := by
  induction moves generalizing σ with
  | nil => exact .inl ⟨c, hc, hmem⟩
  | cons m moves ih =>
    rcases ih (σ.step m) hmem with ⟨d, hd, hmem⟩ | ⟨name, hname⟩
    · have hstep := σ.callStep_step m
      generalize (σ.step m).calls = calls at hstep hmem
      cases hstep with
      | rest => exact .inl ⟨d, hd, hmem⟩
      | close | resume =>
        rcases List.mem_append.1 hmem with hmem | hmem
        · exact .inl ⟨d, hd, hmem⟩
        · cases List.mem_singleton.1 hmem
          cases hd
      | closeTrack =>
        rcases List.mem_append.1 hmem with hmem | hmem
        · exact .inl ⟨d, hd, hmem⟩
        · cases List.mem_singleton.1 hmem
          exact .inr ⟨_, List.mem_cons_self⟩
      | proceed hi _ ht =>
        rcases List.mem_or_eq_of_mem_set hmem with hmem | heq
        · exact .inl ⟨d, hd, hmem⟩
        · cases heq
          exact .inl ⟨_, ht.closesTrack hd, List.mem_of_getElem? hi⟩
    · exact .inr ⟨name, List.mem_cons_of_mem _ hname⟩

end System

end Playout
