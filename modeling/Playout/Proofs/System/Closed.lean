import Mathlib
import Playout.Proofs.System.Cancellation
import Playout.Proofs.System.Queues

/-!
# Behind the end of a session

Nothing comes of what is begun in a session when the first call to close it has returned (`Session.Ended`). A request
for a track is refused in its first step (`Errand.Spurned`), a playback finds its token cancelled in its first step and
ends without having asked for the lease (`Task.Spurned`), and the session stays as it was left
(`System.closing_is_final`).
-/

namespace Playout

/-- The first call to close a session has returned. -/
structure Session.Ended (s : Session) : Prop extends s.Spent where
  revoked : s.revoked = true
  disconnects : s.room.disconnects = 1
  receiver : s.audio.receiver ≠ .held

/-! ## Errands -/

theorem Session.lookup_of_closed {s : Session} (hclosed : s.closed = true) (htracks : s.tracks = []) (name : String) :
    s.lookup name = .refused :=
  lookup_eq_refused.2 ⟨by rw [htracks]; rfl, hclosed⟩

theorem Obtain.Transition.asking_of_closed {s s' : Session} {name : String} {cue : Cue}
    {r : Obtain ⊕ Except DeliveryError Handle} (h : Obtain.Transition s name .asking cue r s')
    (hclosed : s.closed = true) (htracks : s.tracks = []) : r = .inr (.error .roomClosed) := by
  have hrefused := s.lookup_of_closed hclosed htracks name
  cases h with
  | found hl | missing hl => cases hl.symm.trans hrefused
  | refused => rfl

theorem Obtain.step_asking_of_closed {s : Session} (hclosed : s.closed = true) (htracks : s.tracks = [])
    (name : String) : Obtain.asking.step s name .go = some (.inr (.error .roomClosed), s) := by
  simp only [Obtain.step, s.lookup_of_closed hclosed htracks name]

namespace Errand

variable {s s' : Session} {m m' : Counters} {e e' : Errand} {cue : Cue}

def isEmpty : Errand → Bool
  | .track .. | .tracked .. => false
  | .push p => p.total = 0

/-- What an errand has come to: a failure, or none, once there is a result. -/
def result? : Errand → Option (Except DeliveryError Unit)
  | .track .. => none
  | .tracked _ result => some (result.map fun _ => ())
  | .push p => p.result?.map fun result => result.map fun _ => ()

/-- An errand that has not been further than its first look at the map, and found the session closed there. -/
inductive Spurned : Errand → Prop
  | track (name : String) : Spurned (.track name .asking)
  | tracked (name : String) : Spurned (.tracked name (.error .roomClosed))
  /-- Nothing is looked up for a push without samples. -/
  | empty {p : Push} (htotal : p.total = 0) (hstage : p.stage = .done (.ok 0)) : Spurned (.push p)
  | push {p : Push} (htotal : p.total ≠ 0) (hstage : p.stage = .obtaining .asking) : Spurned (.push p)
  | pushed {p : Push} (htotal : p.total ≠ 0) (hstage : p.stage = .done (.error .roomClosed)) : Spurned (.push p)

/-- An errand that somebody has just set out on. -/
inductive Begun (s : Session) : Errand → Prop
  | track (name : String) : Begun s (.track name .asking)
  | push (name : String) (pcm : Bytes) : Begun s (.push (Push.new s name pcm))

theorem Begun.spurned (h : e.Begun s) : e.Spurned := by
  cases h with
  | track name => exact .track name
  | push name pcm =>
    by_cases hnil : Pcm.ofLittleEndian pcm = []
    · exact .empty (by simp [Push.new, hnil]) (by simp [Push.new, hnil])
    · exact .push (by simpa [Push.new] using hnil) (by simp [Push.new, hnil])

/-- In a closed session an errand does not come further than its first look at the map. -/
theorem Spurned.step (h : e.Spurned) (hclosed : s.closed = true) (htracks : s.tracks = [])
    (he : e.step s m cue = some (e', s', m')) : e'.Spurned := by
  obtain ⟨name, o, r, rfl, rfl, ho, -⟩ | ⟨p, p', rfl, rfl, hp⟩ := step_cases he
  · cases h
    obtain rfl := ho.asking_of_closed hclosed htracks
    exact .tracked name
  · -- a push that is done takes no step
    obtain ⟨hstage, htotal⟩ : p.stage = .obtaining .asking ∧ p.total ≠ 0 := by
      cases h with
      | push htotal hstage => exact ⟨hstage, htotal⟩
      | empty _ hstage | pushed _ hstage => simp [Push.step, hstage] at hp
    cases Push.transition_of_step hp with
    | obtaining hstage' ho | obtained hstage' ho =>
      obtain rfl := Push.Stage.obtaining.inj (hstage.symm.trans hstage')
      cases ho.asking_of_closed hclosed htracks
    | unobtained hstage' ho =>
      obtain rfl := Push.Stage.obtaining.inj (hstage.symm.trans hstage')
      cases ho.asking_of_closed hclosed htracks
      exact .pushed htotal rfl
    | recorded hstage' | unwritten hstage' | written hstage' | counted hstage' | completed hstage' =>
      cases hstage.symm.trans hstage'

theorem Spurned.ends (h : e.Spurned) (hclosed : s.closed = true) (htracks : s.tracks = []) (hgoing : e.result? = none) :
    ∃ e', e.step s m .go = some (e', s, m) ∧ e'.result? = some (.error .roomClosed) := by
  cases h with
  | track name =>
    refine ⟨.tracked name (.error .roomClosed), ?_, rfl⟩
    simp only [Errand.step, Obtain.step_asking_of_closed hclosed htracks]
  | @push p htotal hstage =>
    refine ⟨.push { p with stage := .done (.error .roomClosed) }, ?_, rfl⟩
    simp only [Errand.step, Push.step, hstage, Obtain.step_asking_of_closed hclosed htracks, Option.map_some]
  | tracked => cases hgoing
  | empty _ hstage | pushed _ hstage => simp [result?, Push.result?, hstage] at hgoing

theorem Spurned.result (h : e.Spurned) (hfull : e.isEmpty = false) {result : Except DeliveryError Unit}
    (hresult : e.result? = some result) : result = .error .roomClosed := by
  cases h with
  | track => cases hresult
  | tracked => exact (Option.some.inj hresult).symm
  | empty htotal => simp [isEmpty, htotal] at hfull
  | push _ hstage => simp [result?, Push.result?, hstage] at hresult
  | pushed _ hstage =>
    simp only [result?, Push.result?, hstage, Option.map_some, Option.some.injEq] at hresult
    exact hresult.symm

end Errand

/-! ## Playbacks -/

namespace Task

variable {s s' : Session} {m m' : Counters} {t t' : Task} {cue : Cue} {left : Nat}

/-- The stages of a playback that has not been further than its first look at its token, and found itself cancelled
there, with the steps that are left. -/
inductive Stage.Spurned : Nat → Stage → Prop
  | starting : Spurned 3 .starting
  | retiring : Spurned 2 (.retiring (.ok (.cancelled 0)))
  | reporting : Spurned 1 (.reporting (.ok (.cancelled 0)))
  | ended : Spurned 0 (.ended (.ok (.cancelled 0)))

/-- A playback in one of these stages has done nothing. -/
structure Spurned (t : Task) (left : Nat) : Prop where
  stage : Stage.Spurned left t.stage
  track : t.track = none
  delivered : t.delivered = 0

theorem Stage.Spurned.le {stage : Stage} (h : Stage.Spurned left stage) : left ≤ 3 := by
  cases h <;> decide

theorem Stage.Spurned.phase {stage : Stage} (h : Stage.Spurned left stage) :
    stage.phase ≠ .waiting ∧ stage.phase ≠ .working := by
  cases h <;> decide

theorem spurned_new (config : Config) (slot : Nat) (url : Url) (request : Request) :
    (Task.new config slot url request).Spurned 3 :=
  ⟨.starting, rfl, rfl⟩

theorem Spurned.ending (h : t.Spurned left) {ending : Ending} (hended : t.ending? = some ending) :
    ending = .ok (.cancelled 0) := by
  obtain ⟨hstage, -, -⟩ := h
  unfold ending? at hended
  split at hended
  · next hended' =>
    rw [hended'] at hstage
    cases hstage
    exact (Option.some.inj hended).symm
  · cases hended

/-- A cancelled playback that has not been further than its first look at its token is one step nearer to its end. -/
theorem Spurned.step (h : t.Spurned left) (hc : s.isCancelled t.slot = true) (ht : t.Transition s m cue t' s' m') :
    ∃ left', left = left' + 1 ∧ t'.Spurned left' := by
  obtain ⟨hstage, htrack, hdelivered⟩ := h
  obtain ⟨hwaiting, hworking⟩ := hstage.phase
  cases ht with
  | quit hstage' =>
    rw [hstage'] at hstage
    cases hstage
    exact ⟨2, rfl, .retiring, htrack, hdelivered⟩
  | retired hstage' =>
    rw [hstage'] at hstage
    cases hstage
    exact ⟨1, rfl, .reporting, htrack, hdelivered⟩
  | reported hstage' =>
    rw [hstage'] at hstage
    cases hstage
    exact ⟨0, rfl, .ended, htrack, hdelivered⟩
  | ask _ hlive => cases hc.symm.trans hlive
  | quitWaiting hstage' | granted hstage' => exact absurd (phase_of_stage hstage') hwaiting
  | stopFetching hstage' | answered hstage' | stopListening hstage' | heard hstage' | exhausted hstage'
  | delivered hstage' | stopDelivering hstage' | reuse hstage' | seek hstage' | stopPublishing hstage'
  | resumePublishing hstage' | obtaining hstage' | obtained hstage' | unobtained hstage' | booked hstage'
  | stopHolding hstage' | due hstage' | stopWriting hstage' | suspend hstage' | resume hstage' | recorded hstage'
  | unwritten hstage' | written hstage' | counted hstage' | unlisted hstage' | unlistedNone hstage'
  | silenced hstage' | released hstage' =>
    exact absurd (phase_of_stage hstage') hworking

theorem Spurned.next (h : t.Spurned (left + 1)) (hc : s.isCancelled t.slot = true) :
    ∃ t' s' m', t.step s m .go = some (t', s', m') := by
  obtain ⟨hstage, -, -⟩ := h
  generalize hat : t.stage = stage at hstage
  cases hstage with
  | starting => simp [Task.step, stepOpening, hat, hc]
  | retiring | reporting => simp [Task.step, stepClosing, hat]

end Task

/-! ## Studios -/

namespace Studio

variable {config : Config} {st st' : Studio} {i : Nat}

/-- A playback was cancelled before it looked at its token for the first time. -/
structure Spurns (st : Studio) (i : Nat) : Prop where
  barred : st.Barred i
  spurned : ∀ t ∈ st.tasks, t.slot = i → ∃ left, t.Spurned left

theorem Spurns.of_revoked (h : st.InOrder) (hrevoked : st.session.revoked = true) {t : Task} (ht : t ∈ st.tasks)
    (hfresh : t.stage = .starting) (hnew : t.Spurned 3) : st.Spurns t.slot where
  barred :=
    ⟨Session.isCancelled_of_revoked hrevoked _,
      h.turns.early t ht (.inl (Task.phase_of_stage hfresh))⟩
  spurned u hu hslot := by
    obtain rfl := h.placed.eq_of_slot hu ht hslot
    exact ⟨3, hnew⟩

theorem Spurns.step (h : st.Spurns i) (hs : Step config st st') : st'.Spurns i := by
  refine ⟨h.barred.step hs, ?_⟩
  cases hs.progress with
  | aside ha =>
    rw [ha.tasks]
    exact h.spurned
  | accept url request =>
    intro t ht hslot
    rcases List.mem_append.1 ht with ht | ht
    · exact h.spurned t ht hslot
    · obtain rfl := List.mem_singleton.1 ht
      exact ⟨3, Task.spurned_new config _ url request⟩
  | @play before behind t t' cue s m m' htasks ht =>
    intro u hu hslot
    rcases mem_replaced.1 hu with rfl | hu
    · obtain rfl := ht.same.slot.symm.trans hslot
      obtain ⟨left, hleft⟩ := h.spurned t (htasks ▸ mem_replaced.2 (.inl rfl)) rfl
      obtain ⟨left', -, hleft'⟩ := hleft.step h.barred.1 ht
      exact ⟨left', hleft'⟩
    · exact h.spurned u (htasks ▸ mem_of_others hu) hslot

end Studio

namespace System

variable {σ : System} {config : Config} {moves : List Move} {i k n : Nat}

/-! ## Runs -/

theorem errand_of_step (m : Move) {e' : Errand} (hi : (σ.step m).errands[i]? = some (n, e')) :
    σ.errands[i]? = some (n, e') ∨
      (σ.errands[i]? = none ∧ ∃ s, σ.service.sessions[n]? = some s ∧ e'.Begun s) ∨
      ∃ e s s' m' cue, σ.errands[i]? = some (n, e) ∧ σ.service.sessions[n]? = some s ∧
        e.step s σ.service.counters cue = some (e', s', m') := by
  have hnew : ∀ {e : Errand} {k : Nat} {s : Session}, σ.service.sessions[k]? = some s → e.Begun s →
      (σ.errands ++ [(k, e)])[i]? = some (n, e') →
      σ.errands[i]? = some (n, e') ∨
        (σ.errands[i]? = none ∧ ∃ s, σ.service.sessions[n]? = some s ∧ e'.Begun s) := by
    intro e k s hs he hi
    by_cases hlt : i < σ.errands.length
    · rw [List.getElem?_append_left hlt] at hi
      exact .inl hi
    · rw [List.getElem?_append_right (Nat.le_of_not_lt hlt), List.getElem?_singleton] at hi
      split at hi
      · obtain ⟨rfl, rfl⟩ := Prod.mk.inj (Option.some.inj hi)
        exact .inr ⟨List.getElem?_eq_none (Nat.le_of_not_lt hlt), s, hs, he⟩
      · cases hi
  have hstep := σ.step_spec m
  generalize σ.step m = σ' at hstep hi
  cases hstep with
  | tracking hs => exact (hnew hs (.track _) hi).imp_right .inl
  | pushing hs => exact (hnew hs (.push _ _) hi).imp_right .inl
  | @attended j n' cue e e₁ s s' m' hj hs he =>
    by_cases hji : j = i
    · subst hji
      rw [List.getElem?_set_self (List.getElem?_eq_some_iff.1 hj).1] at hi
      obtain ⟨rfl, rfl⟩ := Prod.mk.inj (Option.some.inj hi)
      exact .inr (.inr ⟨e, s, s', m', cue, hj, hs, he⟩)
    · rw [List.getElem?_set_ne hji] at hi
      exact .inl hi
  | shutting | closing | closingTrack => exact .inl (by simpa only [errands_dial] using hi)
  | _ => exact .inl hi

theorem left_step (hleft : (n, .left) ∈ σ.calls) (m : Move) : (n, .left) ∈ (σ.step m).calls := by
  have hstep := σ.callStep_step m
  generalize (σ.step m).calls = calls at hstep
  cases hstep with
  | rest => exact hleft
  | close | resume | closeTrack => exact List.mem_append_left _ hleft
  | proceed hi _ hc =>
    refine mem_set_of_ne hi hleft ?_ _
    rintro heq
    cases heq
    cases hc.unfinished

theorem left_run (hleft : (n, .left) ∈ σ.calls) (moves : List Move) : (n, .left) ∈ (σ.run moves).calls := by
  induction moves generalizing σ with
  | nil => exact hleft
  | cons m moves ih => exact ih (left_step hleft m)

theorem receiver_of_left (hleft : (n, .left) ∈ ((System.new config).run moves).calls) {s : Session}
    (hs : ((System.new config).run moves).service.sessions[n]? = some s) : s.audio.receiver ≠ .held := by
  induction moves using List.reverseRecOn generalizing s with
  | nil => cases hleft
  | append_singleton moves m ih =>
    have hsound := (Sound.new config).run moves
    have hbefore : ∀ {c}, (n, c) ∈ ((System.new config).run moves).calls →
        ∃ s₀, ((System.new config).run moves).service.sessions[n]? = some s₀ := by
      intro c hc
      exact ⟨_, List.getElem?_eq_getElem (hsound.numbered.calls _ hc)⟩
    have hearlier : (n, .left) ∈ ((System.new config).run moves).calls → s.audio.receiver ≠ .held := by
      intro hleft
      obtain ⟨s₀, hs₀⟩ := hbefore hleft
      obtain ⟨s₁, hs₁, haudio⟩ := ((System.new config).run moves).audio_step m hs₀
      rw [run_concat] at hs
      obtain rfl := Option.some.inj (hs₁.symm.trans hs)
      rw [haudio]
      exact RoomAudio.receiver_calls (ih hleft hs₀) _
    rw [run_concat] at hleft hs
    have hstep := ((System.new config).run moves).callStep_step m
    generalize (((System.new config).run moves).step m).calls = calls at hstep hleft
    cases hstep with
    | rest => exact hearlier hleft
    | close | resume | closeTrack =>
      rcases List.mem_append.1 hleft with hleft | hleft
      · exact hearlier hleft
      · cases List.mem_singleton.1 hleft
    | proceed hi hs₀ hc hs' =>
      rcases List.mem_or_eq_of_mem_set hleft with hleft | heq
      · exact hearlier hleft
      · cases heq
        rw [hs', List.getElem?_modify, hs₀] at hs
        obtain rfl : _ = s := by simpa using hs
        rw [hc.of_left]
        exact RoomAudio.receiver_withdraw _

/-- A session is as the first call to close it has left it. -/
theorem ended_of_left (hleft : (n, .left) ∈ ((System.new config).run moves).calls) :
    ∃ s, ((System.new config).run moves).service.sessions[n]? = some s ∧ s.Ended := by
  have hlt := ((Sound.new config).run moves).numbered.calls _ hleft
  have hs := List.getElem?_eq_getElem hlt
  have hmarked := (reachable_of_run (studio_of_session hs)).marked
  have hmem := mem_partOf.2 hleft
  refine ⟨_, hs, ?_⟩
  exact {
    toSpent := hmarked.spent _ hmem rfl
    revoked := hmarked.revoked _ hmem rfl
    disconnects := hmarked.disconnects_of_left hmem
    receiver := receiver_of_left hleft hs }

/-- An errand that somebody sets out on behind the end of a session does not come far. -/
theorem spurned_errand_of_run (hleft : (n, .left) ∈ ((System.new config).run moves).calls) (more : List Move)
    {e : Errand} (hi : ((System.new config).run moves).errands.length ≤ i)
    (he : ((System.new config).run (moves ++ more)).errands[i]? = some (n, e)) : e.Spurned := by
  induction more using List.reverseRecOn generalizing e with
  | nil =>
    rw [List.append_nil] at he
    exact absurd (List.getElem?_eq_some_iff.1 he).1 hi.not_gt
  | append_singleton more m ih =>
    rw [← List.append_assoc, run_concat] at he
    rcases errand_of_step m he with he | ⟨-, s₀, -, hnew⟩ | ⟨e₀, s₀, s', m', cue, he, hs, hstep⟩
    · exact ih he
    · exact hnew.spurned
    · have hleft' := left_run hleft more
      rw [← run_append] at hleft'
      obtain ⟨s, hs', hended⟩ := ended_of_left hleft'
      obtain rfl := Option.some.inj (hs.symm.trans hs')
      exact (ih he).step hended.closed hended.tracks hstep

/-- A playback that is begun behind the end of a session is cancelled before it looks at its token for the first
time. -/
theorem spurned_playback_of_run (hleft : (n, .left) ∈ ((System.new config).run moves).calls) (more : List Move)
    {st : Studio} {t : Task} (hk : ((System.new config).run moves).service.tasks.length ≤ k)
    (hst : ((System.new config).run (moves ++ more)).studio n = some st)
    (ht : ((System.new config).run (moves ++ more)).service.tasks[k]? = some (n, t)) : st.Spurns t.slot := by
  induction more using List.reverseRecOn generalizing st t with
  | nil =>
    rw [List.append_nil] at ht
    exact absurd (List.getElem?_eq_some_iff.1 ht).1 hk.not_gt
  | append_singleton more m ih =>
    have hin := (reachable_of_run hst).inOrder
    have hleft' := left_run hleft (more ++ [m])
    rw [← run_append] at hleft'
    obtain ⟨s', hs', hended⟩ := ended_of_left hleft'
    obtain rfl := Option.some.inj (hs'.symm.trans (Floor.studio_eq_some.1 hst).1)
    rw [← List.append_assoc, run_concat] at hst ht
    cases hbefore : ((System.new config).run (moves ++ more)).service.tasks[k]? with
    | none =>
      obtain ⟨slot, url, request, rfl⟩ := new_of_step hbefore ht
      exact .of_revoked hin hended.revoked (mem_tasks_of_place hst ht) rfl (Task.spurned_new _ slot url request)
    | some entry =>
      obtain ⟨n₀, t₀⟩ := entry
      obtain ⟨t₁, ht₁, hslot⟩ := (((System.new config).run (moves ++ more)).floor_step m).place hbefore
      obtain ⟨rfl, rfl⟩ := Prod.mk.inj (Option.some.inj (ht₁.symm.trans ht))
      have hlt := ((Sound.new config).run (moves ++ more)).numbered.tasks _ (List.mem_of_getElem? hbefore)
      have hst₀ := studio_of_session (List.getElem?_eq_getElem hlt)
      obtain ⟨st₁, hst₁, hstep⟩ := studio_step _ m hst₀
      obtain rfl := Option.some.inj (hst₁.symm.trans hst)
      rw [hslot]
      cases hstep with
      | refl => exact ih hst₀ hbefore
      | single hstep => exact (ih hst₀ hbefore).step hstep

/-! ## What can still be done -/

theorem task_of_play {s s' : Session} {t t' : Task} {m' : Counters} {cue : Cue}
    (hk : σ.service.tasks[k]? = some (n, t)) (hs : σ.service.sessions[n]? = some s)
    (ht : t.step s σ.service.counters cue = some (t', s', m')) :
    (σ.step (.play k cue)).service.tasks[k]? = some (n, t') := by
  have hcue := Service.cue_eq_some.2 ⟨n, t, s, t', s', m', hk, hs, ht, rfl⟩
  simp only [step, play, hk, hs, hcue]
  exact List.getElem?_set_self (List.getElem?_eq_some_iff.1 hk).1

theorem errand_of_attend {s s' : Session} {e e' : Errand} {m' : Counters} {cue : Cue}
    (hi : σ.errands[i]? = some (n, e)) (hs : σ.service.sessions[n]? = some s)
    (he : e.step s σ.service.counters cue = some (e', s', m')) :
    (σ.step (.attend i cue)).errands[i]? = some (n, e') := by
  simp only [step, attend, hi, hs, he, Option.bind_some]
  exact List.getElem?_set_self (List.getElem?_eq_some_iff.1 hi).1

/-- A playback that was cancelled before it looked at its token ends by itself. -/
theorem ends_of_spurned {st : Studio} {t : Task} {left : Nat} (hst : σ.studio n = some st)
    (hk : σ.service.tasks[k]? = some (n, t)) (hspurns : st.Spurns t.slot) (hleft : t.Spurned left) :
    ∃ t', (σ.run (List.replicate left (.play k .go))).service.tasks[k]? = some (n, t') ∧
      t'.ending? = some (.ok (.cancelled 0)) := by
  induction left generalizing σ st t with
  | zero =>
    have hstage := hleft.stage
    generalize hat : t.stage = stage at hstage
    cases hstage
    exact ⟨t, hk, by rw [Task.ending?, hat]⟩
  | succ left ih =>
    obtain ⟨t', s', m', hstep⟩ := hleft.next (m := σ.service.counters) hspurns.barred.1
    have hk' := task_of_play hk (Floor.studio_eq_some.1 hst).1 hstep
    have ht := Task.transition_of_step hstep
    obtain ⟨left', hsucc, hleft'⟩ := hleft.step hspurns.barred.1 ht
    obtain rfl := Nat.succ.inj hsucc
    obtain ⟨st', hst', hnext⟩ := σ.studio_step (.play k .go) hst
    refine ih hst' hk' ?_ hleft'
    rw [ht.same.slot]
    cases hnext with
    | refl => exact hspurns
    | single hnext => exact hspurns.step hnext

/-- **Closing is final.** Behind the first call that has closed a session it has left its room once, has no tracks and
hands out no receiving end. Requests for tracks and pushes fail, and a playback that begins is cancelled in three steps
at most. -/
theorem closing_is_final (config : Config) (moves more : List Move) {n : Nat}
    (hleft : (n, .left) ∈ ((System.new config).run moves).calls) :
    let σ := (System.new config).run moves
    let σ' := σ.run more
    (∃ s, σ'.service.sessions[n]? = some s ∧ s.closed = true ∧ s.room.disconnects = 1 ∧ s.tracks = [] ∧
      s.audio.take.1 = false) ∧
    (∀ i e, σ.errands.length ≤ i → σ'.errands[i]? = some (n, e) → e.isEmpty = false →
      (∀ result, e.result? = some result → result = .error .roomClosed) ∧
      (e.result? = none →
        ∃ e', (σ'.step (.attend i .go)).errands[i]? = some (n, e') ∧ e'.result? = some (.error .roomClosed))) ∧
    ∀ k t, σ.service.tasks.length ≤ k → σ'.service.tasks[k]? = some (n, t) →
      t.phase ≠ .waiting ∧ t.phase ≠ .working ∧ t.track = none ∧ t.delivered = 0 ∧
      (∀ note, (n, note) ∈ σ'.log → note.acquirer ≠ some t.slot ∧ note.deliverer ≠ some t.slot) ∧
      (∀ ending, t.ending? = some ending → ending = .ok (.cancelled 0)) ∧
      (∃ left ≤ 3, ∃ t', (σ'.run (List.replicate left (.play k .go))).service.tasks[k]? = some (n, t') ∧
        t'.ending? = some (.ok (.cancelled 0))) ∧
      (t.phase = .gone → ∀ s, σ'.service.sessions[n]? = some s → s.active ≠ some t.slot) := by
  intro σ σ'
  have hrun : σ' = (System.new config).run (moves ++ more) := (run_append _ moves more).symm
  have hleft' : (n, .left) ∈ σ'.calls := left_run hleft more
  rw [hrun] at hleft' ⊢
  obtain ⟨s, hs, hended⟩ := ended_of_left hleft'
  refine ⟨⟨s, hs, hended.closed, hended.disconnects, hended.tracks, ?_⟩, ?_, ?_⟩
  · rw [RoomAudio.take, if_neg hended.receiver]
  · intro i e hi he hfull
    have hspurned := spurned_errand_of_run hleft more hi he
    refine ⟨fun result hresult => hspurned.result hfull hresult, ?_⟩
    intro hgoing
    obtain ⟨e', hstep, hresult⟩ := hspurned.ends hended.closed hended.tracks hgoing
    exact ⟨e', errand_of_attend he hs hstep, hresult⟩
  · intro k t hk ht
    have hst := studio_of_session hs
    have hin := (reachable_of_run hst).inOrder
    have hspurns := spurned_playback_of_run hleft more hk hst ht
    obtain ⟨left, hleft⟩ := hspurns.spurned t (mem_tasks_of_place hst ht) rfl
    -- who delivers has the lease, which a barred playback never gets
    refine ⟨hleft.stage.phase.1, hleft.stage.phase.2, hleft.track, hleft.delivered, ?_, ?_, ?_, ?_⟩
    · intro note hnote
      have hmem := mem_partOf.2 hnote
      refine ⟨?_, ?_⟩
      · intro hacquirer
        exact hspurns.barred.2 (List.mem_filterMap.2 ⟨note, hmem, hacquirer⟩)
      · intro hdeliverer
        exact hspurns.barred.2 (hin.turns.deliverers note hmem _ hdeliverer)
    · intro ending hended
      exact hleft.ending hended
    · exact ⟨left, hleft.stage.le, ends_of_spurned hst ht hspurns hleft⟩
    · intro hgone s' hs'
      obtain rfl := Option.some.inj (hs'.symm.trans hs)
      exact (hin.free_of_gone (mem_tasks_of_place hst ht) hgone).1

/-- A playback is asked for, and its session is closed. -/
def closedInRequest : List Move :=
  .openSession "room" :: .request "room" { sourceUrl := "http://origin/a.wav" } :: .close 0 :: Move.hungUp 0

theorem left_of_closedInRequest : (0, .left) ∈ ((System.new .terse).run closedInRequest).calls := by
  have hcall : ((System.new .terse).run closedInRequest).calls.map (fun entry => (entry.1, entry.2.hasLeft)) =
      [(0, true)] := by
    decide +kernel
  obtain ⟨⟨n, c⟩, hcalls, hcall⟩ := List.map_eq_singleton_iff.1 hcall
  obtain ⟨rfl, hleft⟩ := Prod.mk.inj hcall
  obtain rfl : c = .left := Session.Call.eq_left hleft
  rw [hcalls]
  exact List.mem_singleton_self _

theorem closing_is_final_of_late_start :
    let more : List Move :=
      [.resume 0, .track 0 "a", .push 0 "a" [7, 0], .attend 0 .go, .take 0, .play 0 .go, .close 0,
        .proceed 1 (.cue .go)]
    let σ := ((System.new .terse).run closedInRequest).run more
    (∃ s : Session, σ.service.sessions[0]? = some s ∧ s.room.disconnects = 1 ∧ s.tracks = []) ∧
      (∃ e : Errand, σ.errands[0]? = some (0, e) ∧ e.result? = some (.error .roomClosed)) ∧
      (∃ e : Errand, (σ.step (.attend 1 .go)).errands[1]? = some (0, e) ∧ e.result? = some (.error .roomClosed)) ∧
      ∃ left ≤ 3, ∃ t : Task, (σ.run (List.replicate left (.play 0 .go))).service.tasks[0]? = some (0, t) ∧
        t.ending? = some (.ok (.cancelled 0)) := by
  intro more σ
  have hfirst : (σ.errands[0]?).map (fun entry => (entry.1, entry.2.isEmpty, entry.2.result?.isSome)) =
      some (0, false, true) := by
    decide +kernel
  have hsecond : (σ.errands[1]?).map (fun entry => (entry.1, entry.2.isEmpty, entry.2.result?.isSome)) =
      some (0, false, false) := by
    decide +kernel
  have htask : (σ.service.tasks[0]?).map Prod.fst = some 0 := by decide +kernel
  obtain ⟨⟨n₁, e₁⟩, he₁, hfirst⟩ := Option.map_eq_some_iff.1 hfirst
  obtain ⟨⟨n₂, e₂⟩, he₂, hsecond⟩ := Option.map_eq_some_iff.1 hsecond
  obtain ⟨⟨n₃, t⟩, ht, rfl⟩ := Option.map_eq_some_iff.1 htask
  simp only [Prod.mk.injEq] at hfirst hsecond
  obtain ⟨rfl, hfull₁, hdone⟩ := hfirst
  obtain ⟨rfl, hfull₂, hgoing⟩ := hsecond
  obtain ⟨⟨s, hs, -, hdisconnects, htracks, -⟩, herrands, hplaybacks⟩ :=
    closing_is_final .terse closedInRequest more left_of_closedInRequest
  obtain ⟨result, hresult⟩ := Option.isSome_iff_exists.1 hdone
  refine ⟨⟨s, hs, hdisconnects, htracks⟩, ⟨e₁, he₁, ?_⟩, ?_, ?_⟩
  · rw [hresult, (herrands 0 e₁ (by decide +kernel) he₁ hfull₁).1 result hresult]
  · exact (herrands 1 e₂ (by decide +kernel) he₂ hfull₂).2 (Option.not_isSome_iff_eq_none.1 (by simp [hgoing]))
  · obtain ⟨-, -, -, -, -, -, hends, -⟩ := hplaybacks 0 t (by decide +kernel) ht
    exact hends

end System

end Playout
