import Mathlib
import Playout.Proofs.Session.Call
import Playout.Proofs.System.Studio

/-!
# Where a session stands

A session is open and in its room until somebody closes it, which takes several steps. Playbacks, errands and whoever
stops a playback leave it where it stands (`Session.Stays`). The steps of the calls to close it are what takes it on,
and what they have done so far can be read from where they stand (`Studio.Marked`): the one call that found the session
open has marked it, then cancelled its tokens, then emptied its map, and in the end left its room, once.
-/

namespace Playout

namespace Session

/-- What is done to a session leaves it where it stands. -/
structure Stays (s s' : Session) : Prop where
  closed : s'.closed = s.closed
  revoked : s'.revoked = s.revoked
  disconnects : s'.room.disconnects = s.room.disconnects
  audio : s'.audio = s.audio
  /-- No track comes into a closed session. -/
  spent : s.closed = true → s.tracks = [] → s'.tracks = []

variable {s s' : Session}

theorem Stays.refl : s.Stays s := ⟨rfl, rfl, rfl, rfl, fun _ h => h⟩

theorem stays_cancel (s : Session) (i : Nat) : s.Stays (s.cancel i) := ⟨rfl, rfl, rfl, rfl, fun _ h => h⟩

theorem stays_preempt (s : Session) : s.Stays s.preempt := by
  unfold preempt
  split
  · exact .refl
  · exact ⟨rfl, rfl, rfl, rfl, fun _ h => h⟩

theorem stays_begin (s : Session) : s.Stays s.begin.2 := by
  obtain ⟨hclosed, hrevoked, hroom, haudio, hspent⟩ := s.stays_preempt
  exact ⟨hclosed, hrevoked, hroom, haudio, hspent⟩

theorem stays_finish (s : Session) (i : Nat) : s.Stays (s.finish i) := by
  unfold finish
  dsimp only
  split <;> exact ⟨rfl, rfl, rfl, rfl, fun _ h => h⟩

theorem stays_unlist (s : Session) (name : String) : s.Stays (s.unlist name).2 := by
  refine ⟨rfl, rfl, rfl, rfl, ?_⟩
  intro _ hnil
  simp [unlist, hnil]

theorem stays_enlist (s : Session) (name : String) (h : Handle) : s.Stays (s.enlist name h).2 := by
  unfold enlist
  split
  · exact ⟨rfl, rfl, rfl, rfl, fun _ hnil => hnil⟩
  · next hopen =>
    split
    · exact ⟨rfl, rfl, rfl, rfl, fun _ hnil => hnil⟩
    · exact ⟨rfl, rfl, rfl, rfl, fun hclosed => absurd hclosed hopen⟩

end Session

theorem Obtain.Transition.stays {s s' : Session} {name : String} {o : Obtain} {cue : Cue}
    {r : Obtain ⊕ Except DeliveryError Handle} (h : Obtain.Transition s name o cue r s') : s.Stays s' := by
  cases h with
  | enlisted => exact s.stays_enlist name _
  | _ => exact ⟨rfl, rfl, rfl, rfl, fun _ hnil => hnil⟩

theorem Task.Transition.stays {s s' : Session} {m m' : Counters} {t t' : Task} {cue : Cue}
    (h : t.Transition s m cue t' s' m') : s.Stays s' := by
  cases h with
  | obtaining _ _ ho | obtained _ _ ho | unobtained _ _ ho => exact ho.stays
  | unlisted | unlistedNone => exact s.stays_unlist _
  | retired => exact s.stays_finish _
  | _ => exact ⟨rfl, rfl, rfl, rfl, fun _ hnil => hnil⟩

theorem Errand.Transition.stays {s s' : Session} {e e' : Errand} (h : e.Transition s e' s') : s.Stays s' := by
  cases h with
  | obtain ho => exact ho.stays
  | record => exact ⟨rfl, rfl, rfl, rfl, fun _ hnil => hnil⟩
  | rest => exact .refl

/-! ## What work counts -/

theorem Task.Transition.counters {s s' : Session} {m m' : Counters} {t t' : Task} {cue : Cue}
    (h : t.Transition s m cue t' s' m') :
    m'.started = m.started ∧ m'.received = m.received ∧ m'.dropped = m.dropped ∧ m'.sessions = m.sessions := by
  cases h with
  | @reported ending =>
    unfold Counters.countEnding
    dsimp only
    split <;> exact ⟨rfl, rfl, rfl, rfl⟩
  | _ => exact ⟨rfl, rfl, rfl, rfl⟩

theorem Errand.step_counters {s s' : Session} {m m' : Counters} {e e' : Errand} {cue : Cue}
    (h : e.step s m cue = some (e', s', m')) : ∃ frames samples, m' = { m with frames, samples } := by
  obtain ⟨name, o, r, -, -, -, rfl⟩ | ⟨p, p', -, -, hp⟩ := step_cases h
  · exact ⟨_, _, rfl⟩
  · cases Push.transition_of_step hp <;> exact ⟨_, _, rfl⟩

/-! ## Calls -/

namespace Session.Call

variable {s s' : Session} {c c' : Call} {p : Prompt}

theorem Transition.same (h : Transition s c p c' s') :
    s'.slots = s.slots ∧ s'.lease = s.lease ∧ s'.frameSamples = s.frameSamples := by
  cases h with
  | obtain ho => exact ⟨ho.sameSlots.1.slots, ho.sameSlots.2, ho.frameSamples⟩
  | _ => exact ⟨rfl, rfl, rfl⟩

theorem Transition.revoked_mono (h : Transition s c p c' s') (hs : s.revoked = true) : s'.revoked = true := by
  cases h with
  | obtain ho => rw [ho.stays.revoked, hs]
  | revoked => rfl
  | _ => exact hs

theorem Transition.isCancelled (h : Transition s c p c' s') {i : Nat} (hi : s.isCancelled i = true) :
    s'.isCancelled i = true := by
  rw [isCancelled_iff] at hi ⊢
  rw [h.same.1]
  exact hi.imp_left h.revoked_mono

theorem Transition.revoked_of (h : Transition s c p c' s') (hc : c.revoked = true → s.revoked = true)
    (hc' : c'.revoked = true) : s'.revoked = true := by
  cases h with
  | @obtain _ _ _ r => cases r <;> cases hc'
  | revoked => rfl
  | drained | muted | departed => exact hc rfl
  | _ => cases hc'

/-- The tokens are cancelled in a session that is marked, and the handle is taken away when they are. -/
theorem Transition.inOrder (h : Transition s c p c' s') (hclosing : c.closing = true → s.closed = true)
    (hrevoked : c.revoked = true → s.revoked = true) (hs : s.SlotsInOrder) : s'.SlotsInOrder := by
  cases h with
  | obtain ho => exact ho.sameSlots.1.inOrder hs
  | shut => exact hs.shut
  | revoked => exact hs.revoke (hclosing rfl)
  | drained => exact hs.drain (hrevoked rfl)
  | found | unseen | refused | asked | dropped | late => exact hs
  | unlisted | unlistedNone | silenced | muted | departed => exact hs.of_same rfl rfl rfl rfl

theorem Transition.closing_add (h : Transition s c p c' s') :
    c'.closing.toNat + s.closed.toNat = c.closing.toNat + s'.closed.toNat := by
  cases h with
  | @obtain _ _ _ r _ ho =>
    rw [ho.stays.closed]
    cases r <;> rfl
  | shut hopen =>
    rw [hopen]
    rfl
  | _ => rfl

theorem Transition.hasLeft_add (h : Transition s c p c' s') :
    c'.hasLeft.toNat + s.room.disconnects = c.hasLeft.toNat + s'.room.disconnects := by
  cases h with
  | @obtain _ _ _ r _ ho =>
    rw [ho.stays.disconnects]
    cases r <;> rfl
  | departed =>
    change 1 + s.room.disconnects = 0 + (s.room.disconnects + 1)
    omega
  | _ => rfl

end Session.Call

/-! ## What calls have done -/

namespace Studio

variable {config : Config} {st st' : Studio} {c : Session.Call}

/-- What the calls to close a session have done to it. -/
structure Marked (st : Studio) : Prop where
  closing : st.calls.countP Session.Call.closing = st.session.closed.toNat
  revoked : ∀ c ∈ st.calls, c.revoked = true → st.session.revoked = true
  spent : ∀ c ∈ st.calls, c.drained = true → st.session.Spent
  hasLeft : st.calls.countP Session.Call.hasLeft = st.session.room.disconnects

namespace Marked

theorem new (config : Config) (id : String) : (Studio.new config id).Marked :=
  ⟨rfl, nofun, nofun, rfl⟩

theorem closed (h : st.Marked) (hc : c ∈ st.calls) (hclosing : c.closing = true) : st.session.closed = true := by
  have hpos : 0 < st.calls.countP Session.Call.closing := List.countP_pos_iff.2 ⟨c, hc, hclosing⟩
  rw [h.closing] at hpos
  cases hclosed : st.session.closed with
  | true => rfl
  | false => simp [hclosed] at hpos

theorem exists_closing (h : st.Marked) (hclosed : st.session.closed = true) :
    ∃ c ∈ st.calls, c.closing = true := by
  rw [← List.countP_pos_iff, h.closing, hclosed]
  exact Nat.one_pos

theorem disconnects_le (h : st.Marked) : st.session.room.disconnects ≤ st.session.closed.toNat := by
  rw [← h.hasLeft, ← h.closing]
  apply List.countP_mono_left
  intro c _ hc
  cases c <;> first | rfl | cases hc

theorem disconnects_of_left (h : st.Marked) (hleft : .left ∈ st.calls) : st.session.room.disconnects = 1 := by
  have hpos : 0 < st.calls.countP Session.Call.hasLeft := List.countP_pos_iff.2 ⟨_, hleft, rfl⟩
  have hle := h.disconnects_le
  have hone := Bool.toNat_le st.session.closed
  rw [h.hasLeft] at hpos
  omega

theorem left_or_closing (h : st.Marked) (hclosed : st.session.closed = true) :
    st.session.room.disconnects = 1 ∨
      st.session.room.disconnects = 0 ∧ ∃ c ∈ st.calls, c.closing = true ∧ c.hasLeft = false := by
  obtain ⟨c, hc, hclosing⟩ := h.exists_closing hclosed
  cases hleft : c.hasLeft with
  | true =>
    rw [Session.Call.eq_left hleft] at hc
    exact .inl (h.disconnects_of_left hc)
  | false =>
    have hle := h.disconnects_le
    have hone := Bool.toNat_le st.session.closed
    rcases Nat.eq_zero_or_pos st.session.room.disconnects with hzero | hpos
    · exact .inr ⟨hzero, c, hc, hclosing, hleft⟩
    · exact .inl (by omega)

theorem of_stays (h : st.Marked) (hs : st.session.Stays st'.session) (hcalls : st'.calls = st.calls) : st'.Marked where
  closing := by rw [hcalls, hs.closed, h.closing]
  revoked := by
    rw [hcalls, hs.revoked]
    exact h.revoked
  spent c hc hdrained := by
    have hspent := h.spent c (hcalls ▸ hc) hdrained
    exact ⟨hs.closed.trans hspent.closed, hs.spent hspent.closed hspent.tracks⟩
  hasLeft := by rw [hcalls, hs.disconnects, h.hasLeft]

theorem dial (h : st.Marked) (hc : c.fresh = true) : Marked { st with calls := st.calls ++ [c] } := by
  obtain ⟨-, hclosing, hdrained, -⟩ := Session.Call.of_fresh hc
  have hrest : c.revoked = false ∧ c.hasLeft = false := by cases c <;> first | exact ⟨rfl, rfl⟩ | cases hc
  constructor
  · simp [List.countP_append, hclosing, h.closing]
  · simpa [or_imp, forall_and, hrest.1] using h.revoked
  · simpa [or_imp, forall_and, hdrained] using h.spent
  · simp [List.countP_append, hrest.2, h.hasLeft]

theorem countP_middle (q : Session.Call → Bool) (before behind : List Session.Call) (c : Session.Call) :
    (before ++ c :: behind).countP q = (before ++ behind).countP q + (q c).toNat := by
  rw [List.perm_middle.countP_eq, List.countP_cons]
  cases q c <;> rfl

theorem proceed {before behind : List Session.Call} {c' : Session.Call} {p : Session.Call.Prompt} {s : Session}
    (h : st.Marked) (hcalls : st.calls = before ++ c :: behind) (hc : c.Transition st.session p c' s) :
    Marked { st with session := s, calls := before ++ c' :: behind } := by
  have hmem : c ∈ st.calls := by simp [hcalls]
  have hclosed := h.closed hmem
  have hcases : ∀ d ∈ before ++ c' :: behind, d = c' ∨ d ∈ st.calls := by
    intro d hd
    rw [hcalls]
    exact (mem_replaced.1 hd).imp_right mem_of_others
  constructor
  · have hcount := h.closing
    have hadd := hc.closing_add
    rw [hcalls, countP_middle] at hcount
    rw [countP_middle]
    dsimp only
    omega
  · intro d hd hrevoked
    rcases hcases d hd with rfl | hd
    · exact hc.revoked_of (h.revoked c hmem) hrevoked
    · exact hc.revoked_mono (h.revoked d hd hrevoked)
  · intro d hd hdrained
    rcases hcases d hd with rfl | hd
    · exact hc.spent_of_drained hclosed (h.spent c hmem) hdrained
    · exact hc.spent (h.spent d hd hdrained)
  · have hcount := h.hasLeft
    have hadd := hc.hasLeft_add
    rw [hcalls, countP_middle] at hcount
    rw [countP_middle]
    dsimp only
    omega

theorem step (h : st.Marked) (hs : Step config st st') : st'.Marked := by
  cases hs with
  | stop => exact h.of_stays st.session.stays_preempt rfl
  | cancel slot => exact h.of_stays (st.session.stays_cancel slot) rfl
  | audio audio =>
    refine ⟨h.closing, h.revoked, fun c hc hdrained => ?_, h.hasLeft⟩
    have hspent := h.spent c hc hdrained
    exact ⟨hspent.closed, hspent.tracks⟩
  | accept => exact h.of_stays st.session.stays_begin rfl
  | track | push => exact h.of_stays .refl rfl
  | play _ ht => exact h.of_stays (Task.transition_of_step ht).stays rfl
  | attend _ he => exact h.of_stays (Errand.transition_of_step he).stays rfl
  | close | closeTrack => exact h.dial rfl
  | proceed hcalls hc => exact h.proceed hcalls (Session.Call.transition_of_step hc)

end Marked

theorem Reachable.marked (h : Reachable config st) : st.Marked :=
  h.induction (Marked.new config) fun _ _ h => h.step

theorem Step.closed (h : Step config st st') (hc : st.session.closed = true) : st'.session.closed = true := by
  cases h with
  | stop => rw [Session.closed_preempt, hc]
  | accept => rw [Studio.accept, Session.closed_begin, hc]
  | play _ ht => rw [(Task.transition_of_step ht).stays.closed, hc]
  | attend _ he => rw [(Errand.transition_of_step he).stays.closed, hc]
  | proceed _ ht => exact (Session.Call.transition_of_step ht).closed hc
  | cancel | audio | close | closeTrack | track | push => exact hc

theorem Step.revoked (h : Step config st st') (hr : st.session.revoked = true) : st'.session.revoked = true := by
  cases h with
  | stop => rw [st.session.stays_preempt.revoked, hr]
  | accept => rw [Studio.accept, st.session.stays_begin.revoked, hr]
  | play _ ht => rw [(Task.transition_of_step ht).stays.revoked, hr]
  | attend _ he => rw [(Errand.transition_of_step he).stays.revoked, hr]
  | proceed _ ht => exact (Session.Call.transition_of_step ht).revoked_mono hr
  | cancel | audio | close | closeTrack | track | push => exact hr

end Studio

/-! ## Calls of a service -/

namespace System

/-- What a move is to the calls that close. -/
inductive CallStep (σ : System) : Move → List (Nat × Session.Call) → Prop
  | rest (m : Move) : CallStep σ m σ.calls
  | close (n : Nat) : CallStep σ (.close n) (σ.calls ++ [(n, .shutting)])
  | resume {i n : Nat} {rest : List Nat} (hi : σ.pending[i]? = some (.close (n :: rest))) :
      CallStep σ (.resume i) (σ.calls ++ [(n, .shutting)])
  | closeTrack (n : Nat) (name : String) : CallStep σ (.closeTrack n name) (σ.calls ++ [(n, .unlisting name)])
  | proceed {i n : Nat} {c c' : Session.Call} {p : Session.Call.Prompt} {s s' : Session}
      (hi : σ.calls[i]? = some (n, c)) (hs : σ.service.sessions[n]? = some s) (hc : c.Transition s p c' s')
      (hs' : (σ.step (.proceed i p)).service.sessions = σ.service.sessions.modify n fun _ => s') :
      CallStep σ (.proceed i p) (σ.calls.set i (n, c'))

theorem callStep_dial (σ : System) {n : Nat} {c : Session.Call} {m : Move}
    (hc : σ.CallStep m (σ.calls ++ [(n, c)])) : σ.CallStep m (σ.dial n c).calls := by
  rcases σ.dial_cases n c with heq | ⟨s, -, heq⟩
  · rw [heq]
    exact .rest m
  · rw [heq]
    exact hc

theorem callStep_step (σ : System) (m : Move) : σ.CallStep m (σ.step m).calls := by
  have hstep := σ.step_spec m
  generalize heq : σ.step m = σ' at hstep ⊢
  cases hstep with
  | shutting hi => exact σ.callStep_dial (.resume hi)
  | closing n => exact σ.callStep_dial (.close n)
  | closingTrack n name => exact σ.callStep_dial (.closeTrack n name)
  | proceeded hi hs hc =>
    refine .proceed hi hs (Session.Call.transition_of_step hc) ?_
    rw [heq]
    rfl
  | _ => exact .rest _

/-! ### Calls that nobody interrupts -/

theorem set_of_getElem? {α : Type} {l : List α} {k : Nat} {a : α} (h : l[k]? = some a) : l.set k a = l := by
  obtain ⟨hk, rfl⟩ := List.getElem?_eq_some_iff.1 h
  exact List.set_getElem_self hk

/-- A call that nobody interrupts comes to its end in moves of its own. -/
theorem run_of_path {c c' : Session.Call} {s s' : Session} (hp : Session.Call.Path c s c' s') :
    ∃ prompts : List Session.Call.Prompt, ∀ (σ : System) (i n : Nat), σ.calls[i]? = some (n, c) →
      σ.service.sessions[n]? = some s →
        σ.run (prompts.map (.proceed i)) = { σ.update n fun _ => s' with calls := σ.calls.set i (n, c') } := by
  unfold Session.Call.Path at hp
  generalize hfrom : (c, s) = start at hp
  induction hp using Relation.ReflTransGen.head_induction_on generalizing c s with
  | refl =>
    obtain ⟨rfl, rfl⟩ := Prod.mk.inj hfrom
    refine ⟨[], fun σ i n hi hs => ?_⟩
    have hsessions : (σ.service.sessions.modify n fun _ => s) = σ.service.sessions := by
      rw [List.modify_eq_set_getElem?, hs]
      exact set_of_getElem? hs
    rw [update, Service.update, hsessions, set_of_getElem? hi]
    rfl
  | @head a b hstep _ ih =>
    subst hfrom
    obtain ⟨p, hp⟩ := hstep
    obtain ⟨prompts, hrest⟩ := ih (c := b.1) (s := b.2) rfl
    refine ⟨p :: prompts, fun σ i n hi hs => ?_⟩
    have hproceed : σ.proceed i p = { σ.update n fun _ => b.2 with calls := σ.calls.set i (n, b.1) } := by
      simp only [proceed, hi, hs, Option.bind_some, hp]
    have hi' : (σ.proceed i p).calls[i]? = some (n, b.1) := by
      rw [hproceed]
      exact List.getElem?_set_self (List.getElem?_eq_some_iff.1 hi).1
    have hs' : (σ.proceed i p).service.sessions[n]? = some b.2 := by
      rw [hproceed]
      simp [update, Service.update, hs]
    rw [List.map_cons, run, List.foldl_cons, ← run, step, hrest _ i n hi' hs', hproceed]
    simp only [update, Service.update, List.set_set, List.modify_modify_eq]
    rfl

theorem run_of_dial {c c' : Session.Call} {s s' : Session} (hp : Session.Call.Path c s c' s') {σ : System} {n : Nat}
    (hs : σ.service.sessions[n]? = some s) {m : Move} (hm : σ.step m = σ.dial n c) :
    ∃ prompts : List Session.Call.Prompt,
      σ.run (m :: prompts.map (.proceed σ.calls.length)) =
        { σ.update n fun _ => s' with calls := σ.calls ++ [(n, c')] } := by
  obtain ⟨prompts, hrun⟩ := run_of_path hp
  have hdial : σ.dial n c = { σ with calls := σ.calls ++ [(n, c)] } := if_pos (List.getElem?_eq_some_iff.1 hs).1
  have hrun := hrun { σ with calls := σ.calls ++ [(n, c)] } σ.calls.length n List.getElem?_concat_length hs
  refine ⟨prompts, ?_⟩
  rw [run, List.foldl_cons, ← run, hm, hdial, hrun]
  simp [update]

/-- Closing a session in one step is what a call to close it does that nobody interrupts. -/
theorem run_close {σ : System} {n : Nat} {s : Session} (hs : σ.service.sessions[n]? = some s)
    (hopen : s.closed = false) :
    ∃ prompts : List Session.Call.Prompt,
      σ.run (.close n :: prompts.map (.proceed σ.calls.length)) =
        { σ.update n fun _ => s.close with calls := σ.calls ++ [(n, .left)] } :=
  run_of_dial (Session.Call.path_close hopen) hs rfl

/-- Closing a track in one step is what a call to close it does that nobody interrupts. -/
theorem run_closeTrack {σ : System} {n : Nat} {s : Session} (hs : σ.service.sessions[n]? = some s) (name : String) :
    ∃ prompts : List Session.Call.Prompt,
      σ.run (.closeTrack n name :: prompts.map (.proceed σ.calls.length)) =
        { σ.update n fun _ => s.closeTrack name with calls := σ.calls ++ [(n, .over)] } :=
  run_of_dial (Session.Call.path_closeTrack s name) hs rfl

/-! ## Sessions of a run -/

variable {σ : System} {n : Nat} {s : Session} {config : Config}

theorem run_append (σ : System) (moves more : List Move) : σ.run (moves ++ more) = (σ.run moves).run more :=
  List.foldl_append

theorem run_concat (σ : System) (moves : List Move) (m : Move) : σ.run (moves ++ [m]) = (σ.run moves).step m :=
  σ.run_append moves [m]

theorem isClosed_step (m : Move) (h : σ.isClosed n = true) : (σ.step m).isClosed n = true := by
  cases hs : σ.service.sessions[n]? with
  | none => simp [isClosed, hs] at h
  | some s =>
    rw [isClosed_of_session hs] at h
    obtain ⟨st', hst', hstep⟩ := σ.studio_step m (studio_of_session hs)
    rw [isClosed_of_session (Floor.studio_eq_some.1 hst').1]
    cases hstep with
    | refl => exact h
    | single hstep => exact hstep.closed h

theorem opened_of_step (m : Move) (hnone : σ.service.sessions[n]? = none)
    (hs : (σ.step m).service.sessions[n]? = some s) : ∃ id, s = .new σ.service.config id := by
  have hstep := σ.floor_step m
  generalize hf : σ.floor = f, hf' : (σ.step m).floor = f' at hstep
  have hnone : f.sessions[n]? = none := by rw [← hf]; exact hnone
  have hs : f'.sessions[n]? = some s := by rw [← hf']; exact hs
  cases hstep with
  | rest | called | dialed => cases hnone.symm.trans hs
  | changed | accepted | played | attended | proceeded => simp [List.getElem?_modify, hnone] at hs
  | opened id =>
    rw [List.getElem?_eq_none_iff] at hnone
    rw [List.getElem?_append_right hnone, List.getElem?_singleton] at hs
    split at hs
    · obtain rfl := Option.some.inj hs
      exact ⟨id, by rw [← hf]; rfl⟩
    · cases hs

end System

end Playout
