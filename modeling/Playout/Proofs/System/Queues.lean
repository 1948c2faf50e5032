import Mathlib
import Playout.Proofs.Session.RoomAudio
import Playout.Proofs.System.Standing

/-!
# The queues of a service

The queue of room audio of a session is what the calls to it have made of a new one (`System.audio_of_run`), so what is
known of queues is known of it. The service counts what its sessions count (`System.Booked`).
-/

namespace Playout

namespace RoomAudio

/-- What a queue has counted: payloads queued, and payloads dropped. -/
def intake (q : RoomAudio) : Nat × Nat := (q.received, q.dropped)

theorem intake_call (q : RoomAudio) {c : Call} (hc : ∀ payload, c ≠ .offer payload) :
    (q.call c).intake = q.intake := by
  cases c with
  | offer payload => exact absurd rfl (hc payload)
  | take =>
    rw [call, take]
    split <;> rfl
  | receive =>
    rw [call, receive]
    split <;> rfl
  | dropReceiver => rfl
  | withdraw =>
    rw [call, withdraw]
    split <;> rfl

end RoomAudio

def Metrics.intake {τ : Type} (m : Metrics τ) : Nat × Nat := (m.received, m.dropped)

theorem Metrics.intake_countOffer (m : Counters) (q : RoomAudio) (payload : Bytes) :
    (m.countOffer (q.offer payload).1).intake + q.intake = m.intake + (q.offer payload).2.intake := by
  rcases q.offer_cases payload with ⟨-, heq⟩ | ⟨-, -, -, heq⟩ | ⟨-, -, -, heq⟩ <;> rw [heq, Prod.ext_iff]
  · exact ⟨rfl, rfl⟩
  · exact ⟨Nat.succ_add_eq_add_succ _ _, rfl⟩
  · exact ⟨rfl, Nat.succ_add_eq_add_succ _ _⟩

namespace Session.Call

variable {s s' : Session} {c c' : Session.Call} {p : Prompt}

theorem step_of_leaves (h : c.leaves p = true) : c.step s p = some (.left, s.depart) := by
  unfold leaves at h
  split at h
  · rfl
  · cases h

theorem Transition.audio (h : Transition s c p c' s') :
    s'.audio = if c.leaves p then s.audio.withdraw else s.audio := by
  cases h with
  | obtain ho => exact ho.stays.audio
  | @muted handles => cases handles <;> rfl
  | _ => rfl

theorem Transition.intake (h : Transition s c p c' s') : s'.audio.intake = s.audio.intake := by
  rw [h.audio]
  split
  · exact s.audio.intake_call (c := .withdraw) (by simp)
  · rfl

end Session.Call

namespace System

variable {σ : System} {n : Nat} {s : Session} {config : Config} {moves : List Move}

/-! ## What was done to a queue -/

/-- The call that a move is to the queue of room audio of a session. -/
def audioCall (σ : System) (n : Nat) : Move → Option RoomAudio.Call
  | .offer k payload => if k = n then some (.offer payload) else none
  | .take k => if k = n then some .take else none
  | .receive k => if k = n then some .receive else none
  | .dropReceiver k => if k = n then some .dropReceiver else none
  | .proceed i p => if σ.calls[i]?.any fun (k, c) => k = n && c.leaves p then some .withdraw else none
  | _ => none

theorem audio_modify {sessions : List Session} {k : Nat} {f : Session → Session} (hs : sessions[n]? = some s)
    (hf : k = n → (f s).audio = s.audio) : ∃ s', (sessions.modify k f)[n]? = some s' ∧ s'.audio = s.audio := by
  by_cases hk : k = n
  · exact ⟨f s, by simp [hk, hs], hf hk⟩
  · exact ⟨s, by simp [hk, hs], rfl⟩

theorem Step.audio_eq {σ' : System} {m : Move} (h : σ.Step m σ') (hm : σ.audioCall n m = none)
    (hs : σ.service.sessions[n]? = some s) : ∃ s', σ'.service.sessions[n]? = some s' ∧ s'.audio = s.audio := by
  -- somebody works in one session
  have hwork : ∀ {k : Nat} {s₁ s' : Session}, σ.service.sessions[k]? = some s₁ → (k = n → s'.audio = s₁.audio) →
      ∃ s₂, (σ.service.sessions.modify k fun _ => s')[n]? = some s₂ ∧ s₂.audio = s.audio := by
    intro k s₁ s' hs₁ haudio
    refine audio_modify hs ?_
    rintro rfl
    obtain rfl := Option.some.inj (hs.symm.trans hs₁)
    exact haudio rfl
  cases h with
  | opened => exact ⟨s, (List.getElem?_append_left (List.getElem?_eq_some_iff.1 hs).1).trans hs, rfl⟩
  | @accepted _ _ _ _ s₁ _ hs₁ => exact hwork hs₁ fun _ => s₁.stays_begin.audio
  | played _ hs₁ ht => exact hwork hs₁ fun _ => (Task.transition_of_step ht).stays.audio
  | attended _ hs₁ he => exact hwork hs₁ fun _ => (Errand.transition_of_step he).stays.audio
  | @proceeded _ _ p c _ _ _ hi hs₁ hc =>
    refine hwork hs₁ fun hk => ?_
    have hleaves : c.leaves p = false := by simpa [audioCall, hi, hk] using hm
    rw [(Session.Call.transition_of_step hc).audio, hleaves]
    rfl
  | cancelled => exact audio_modify hs fun _ => rfl
  | stopped => exact audio_modify hs fun _ => s.stays_preempt.audio
  | shutting | closing | closingTrack =>
    simp only [service_dial]
    exact ⟨s, hs, rfl⟩
  | offered | taken | received | dropped =>
    refine audio_modify hs fun hk => ?_
    simp [audioCall, hk] at hm
  | _ => exact ⟨s, hs, rfl⟩

theorem audio_of_call {m : Move} {c : RoomAudio.Call} (hm : σ.audioCall n m = some c)
    (hs : σ.service.sessions[n]? = some s) :
    ∃ s', (σ.step m).service.sessions[n]? = some s' ∧ s'.audio = s.audio.call c := by
  have hmodify : ∀ f : Session → Session, (σ.service.sessions.modify n f)[n]? = some (f s) := fun f => by simp [hs]
  cases m with
  | offer k payload =>
    obtain ⟨rfl, rfl⟩ : k = n ∧ .offer payload = c := by simpa [audioCall] using hm
    simp only [step, hs]
    exact ⟨_, hmodify _, rfl⟩
  | take k =>
    obtain ⟨rfl, rfl⟩ : k = n ∧ .take = c := by simpa [audioCall] using hm
    exact ⟨_, hmodify _, rfl⟩
  | receive k =>
    obtain ⟨rfl, rfl⟩ : k = n ∧ .receive = c := by simpa [audioCall] using hm
    exact ⟨_, hmodify _, rfl⟩
  | dropReceiver k =>
    obtain ⟨rfl, rfl⟩ : k = n ∧ .dropReceiver = c := by simpa [audioCall] using hm
    exact ⟨_, hmodify _, rfl⟩
  | proceed i p =>
    obtain ⟨⟨c', hi, hleaves⟩, rfl⟩ :
        (∃ c', σ.calls[i]? = some (n, c') ∧ c'.leaves p = true) ∧ .withdraw = c := by
      simpa [audioCall, Option.any_eq_true, and_assoc] using hm
    simp only [step, proceed, hi, hs, Option.bind_some, Session.Call.step_of_leaves hleaves]
    exact ⟨_, hmodify _, rfl⟩
  | _ => cases hm

theorem audio_step (σ : System) (m : Move) (hs : σ.service.sessions[n]? = some s) :
    ∃ s', (σ.step m).service.sessions[n]? = some s' ∧ s'.audio = s.audio.calls (σ.audioCall n m).toList := by
  cases hm : σ.audioCall n m with
  | none => exact (σ.step_spec m).audio_eq hm hs
  | some c => exact audio_of_call hm hs

/-- The calls to the queue of room audio of a session in the moves of a run, from where the session was opened. -/
def audioCalls (n : Nat) : System → List Move → List RoomAudio.Call
  | _, [] => []
  | σ, m :: moves =>
    (if n < σ.service.sessions.length then (σ.audioCall n m).toList else []) ++ audioCalls n (σ.step m) moves

theorem audioCalls_concat (σ : System) (moves : List Move) (m : Move) :
    audioCalls n σ (moves ++ [m]) =
      audioCalls n σ moves ++
        if n < (σ.run moves).service.sessions.length then ((σ.run moves).audioCall n m).toList else [] := by
  induction moves generalizing σ with
  | nil => exact List.append_nil _
  | cons m' moves ih =>
    rw [List.cons_append, audioCalls, ih, ← List.append_assoc]
    rfl

theorem audioCalls_of_none (σ : System) (hnone : (σ.run moves).service.sessions[n]? = none) :
    audioCalls n σ moves = [] := by
  induction moves using List.reverseRecOn with
  | nil => rfl
  | append_singleton moves m ih =>
    have hbefore : (σ.run moves).service.sessions[n]? = none := by
      by_contra hsome
      obtain ⟨s, hs⟩ := Option.ne_none_iff_exists'.1 hsome
      obtain ⟨s', hs', -⟩ := audio_step _ m hs
      rw [run_concat, hs'] at hnone
      cases hnone
    rw [audioCalls_concat, ih hbefore, if_neg (List.getElem?_eq_none_iff.1 hbefore).not_gt]
    rfl

theorem audio_of_run (hs : ((System.new config).run moves).service.sessions[n]? = some s) :
    s.audio = (RoomAudio.new config.roomAudioCapacity).calls (audioCalls n (System.new config) moves) := by
  induction moves using List.reverseRecOn generalizing s with
  | nil => simp [run, System.new, Service.new] at hs
  | append_singleton moves m ih =>
    rw [run_concat] at hs
    rw [audioCalls_concat]
    cases hbefore : ((System.new config).run moves).service.sessions[n]? with
    | none =>
      obtain ⟨id, rfl⟩ := opened_of_step m hbefore hs
      rw [audioCalls_of_none _ hbefore, if_neg (List.getElem?_eq_none_iff.1 hbefore).not_gt,
        ((Sound.new config).run moves).config_eq]
      rfl
    | some s₀ =>
      obtain ⟨s₁, hs₁, haudio⟩ := audio_step _ m hbefore
      obtain rfl := Option.some.inj (hs₁.symm.trans hs)
      rw [if_pos (List.getElem?_eq_some_iff.1 hbefore).1, RoomAudio.calls_append, ← ih hbefore]
      exact haudio

theorem gone_of_run (hgone : s.audio.receiver = .gone) (hs : σ.service.sessions[n]? = some s) (moves : List Move) :
    ∃ s', (σ.run moves).service.sessions[n]? = some s' ∧ s'.audio.receiver = .gone := by
  induction moves generalizing σ s with
  | nil => exact ⟨s, hs, hgone⟩
  | cons m moves ih =>
    obtain ⟨s', hs', haudio⟩ := σ.audio_step m hs
    refine ih ?_ hs'
    rw [haudio]
    exact (RoomAudio.gone_calls hgone _).1

/-! ## What is counted -/

/-- The service counts what its sessions count. -/
def Booked (σ : System) : Prop :=
  σ.service.counters.intake = (σ.service.sessions.map (·.audio.intake)).sum

namespace Booked

theorem new (config : Config) : (System.new config).Booked := rfl

theorem of_same {σ' : System} (h : σ.Booked) (hm : σ'.service.counters.intake = σ.service.counters.intake)
    (hs : σ'.service.sessions.map (·.audio.intake) = σ.service.sessions.map (·.audio.intake)) : σ'.Booked := by
  rw [Booked, hm, hs]
  exact h

theorem update (h : σ.Booked) (n : Nat) {f : Session → Session} (hf : ∀ s, (f s).audio.intake = s.audio.intake) :
    (σ.update n f).Booked :=
  h.of_same rfl (map_modify_of_same _ _ n fun s _ => hf s)

theorem work {σ' : System} (h : σ.Booked) {s' : Session} (hs : σ.service.sessions[n]? = some s)
    (hintake : s'.audio.intake = s.audio.intake)
    (hsessions : σ'.service.sessions = σ.service.sessions.modify n fun _ => s')
    (hm : σ'.service.counters.intake = σ.service.counters.intake) : σ'.Booked := by
  refine h.of_same hm ?_
  rw [hsessions]
  apply map_modify_of_same
  intro s₀ hs₀
  obtain rfl := Option.some.inj (hs.symm.trans hs₀)
  exact hintake

theorem step {σ' : System} {m : Move} (h : σ.Booked) (hstep : σ.Step m σ') : σ'.Booked := by
  cases hstep with
  | @opened id =>
    have hsum : ((σ.service.sessions ++ [Session.new σ.service.config id]).map (·.audio.intake)).sum =
        (σ.service.sessions.map (·.audio.intake)).sum := by
      rw [List.map_append, List.sum_append]
      rfl
    exact h.trans hsum.symm
  | @accepted _ _ _ _ s _ hs => exact h.work hs (congrArg RoomAudio.intake s.stays_begin.audio) rfl rfl
  | played _ hs ht =>
    have ht := Task.transition_of_step ht
    obtain ⟨-, hreceived, hdropped, -⟩ := ht.counters
    exact h.work hs (congrArg RoomAudio.intake ht.stays.audio) rfl (Prod.ext hreceived hdropped)
  | attended _ hs he =>
    obtain ⟨frames, samples, rfl⟩ := Errand.step_counters he
    exact h.work hs (congrArg RoomAudio.intake (Errand.transition_of_step he).stays.audio) rfl rfl
  | cancelled => exact h.update _ fun s => rfl
  | stopped n => exact h.update n fun s => by rw [s.stays_preempt.audio]
  | shutting | closing | closingTrack => simpa only [Booked, service_dial] using h
  | proceeded _ hs hc => exact h.work hs (Session.Call.transition_of_step hc).intake rfl rfl
  | @offered n payload s hs =>
    have hsum := sum_set (fun s : Session => s.audio.intake) hs { s with audio := (s.audio.offer payload).2 }
    have hm := σ.service.counters.intake_countOffer s.audio payload
    simp only [Booked, Service.update, List.modify_eq_set_getElem?, hs]
    apply add_right_cancel (b := s.audio.intake)
    rw [hm, h]
    exact hsum.symm
  | taken n => exact h.update n fun s => s.audio.intake_call (c := .take) (by simp)
  | received n => exact h.update n fun s => s.audio.intake_call (c := .receive) (by simp)
  | dropped n => exact h.update n fun s => rfl
  | _ => exact h

theorem run (h : σ.Booked) (moves : List Move) : (σ.run moves).Booked := by
  induction moves generalizing σ with
  | nil => exact h
  | cons m moves ih => exact ih (h.step (σ.step_spec m))

theorem sums (h : σ.Booked) :
    σ.service.counters.received = (σ.service.sessions.map (·.audio.received)).sum ∧
      σ.service.counters.dropped = (σ.service.sessions.map (·.audio.dropped)).sum := by
  have hreceived := map_list_sum (AddMonoidHom.fst Nat Nat) (σ.service.sessions.map (·.audio.intake))
  have hdropped := map_list_sum (AddMonoidHom.snd Nat Nat) (σ.service.sessions.map (·.audio.intake))
  rw [← h, List.map_map] at hreceived hdropped
  exact ⟨hreceived, hdropped⟩

end Booked

theorem step_offer_of_gone (hs : σ.service.sessions[n]? = some s) (hgone : s.audio.receiver = .gone) (payload : Bytes) :
    σ.step (.offer n payload) = σ := by
  have hsessions : (σ.service.sessions.modify n fun s' => { s' with audio := s.audio }) = σ.service.sessions := by
    have hsame := map_modify_of_same (f := fun s' => { s' with audio := s.audio }) id σ.service.sessions n ?_
    · simpa using hsame
    · intro s' hs'
      obtain rfl := Option.some.inj (hs.symm.trans hs')
      rfl
  simp only [step, hs, s.audio.offer_of_gone hgone, Service.update, hsessions]
  rfl

/-- **Room audio is accounted for.** The receiving end is handed out once at most. Until it is gone an offer is queued
or dropped as there is place, and what was queued was received or waits, in order. When it is gone offers change
nothing. -/
theorem room_audio_of_run (config : Config) (moves : List Move) :
    let σ := (System.new config).run moves
    let places := max config.roomAudioCapacity 1
    (∀ n s, σ.service.sessions[n]? = some s →
      let events := (RoomAudio.new config.roomAudioCapacity).events (audioCalls n (System.new config) moves)
      let queued := events.filterMap RoomAudio.Event.queued?
      let received := events.filterMap RoomAudio.Event.yielded?
      events.count .handedOut ≤ 1 ∧
      (s.audio.receiver ≠ .gone →
        (∀ payload,
          ((s.audio.offer payload).1 = .queued ↔
            RoomAudio.wholeSamples payload ≠ [] ∧ s.audio.waiting.length < places) ∧
          ((s.audio.offer payload).1 = .full ↔
            RoomAudio.wholeSamples payload ≠ [] ∧ places ≤ s.audio.waiting.length)) ∧
        queued = received ++ s.audio.waiting ∧
        s.audio.received = received.length + s.audio.waiting.length) ∧
      received <+: queued ∧
      s.audio.received = queued.length ∧
      s.audio.dropped = (events.filterMap RoomAudio.Event.turnedAway?).length ∧
      s.audio.waiting.length ≤ places ∧
      (s.audio.receiver = .gone →
        (∀ payload, (s.audio.offer payload).1 = .refused ∧ σ.step (.offer n payload) = σ) ∧
        ∀ more, ∃ s', (σ.run more).service.sessions[n]? = some s' ∧ s'.audio.receiver = .gone)) ∧
    σ.service.counters.received = (σ.service.sessions.map (·.audio.received)).sum ∧
    σ.service.counters.dropped = (σ.service.sessions.map (·.audio.dropped)).sum := by
  intro σ places
  have hbooked : σ.Booked := (Booked.new config).run moves
  refine ⟨?_, hbooked.sums⟩
  intro n s hs events queued received
  have haudio := audio_of_run hs
  have hcapacity : s.audio.capacity = places := by
    rw [haudio, RoomAudio.capacity_calls]
    rfl
  have hreceived : s.audio.received = queued.length := by
    rw [haudio, RoomAudio.received_calls]
    exact Nat.zero_add _
  refine ⟨?_, ?_, ?_, hreceived, ?_, ?_, ?_⟩
  · have honce := (RoomAudio.new config.roomAudioCapacity).handedOut_calls (audioCalls n (System.new config) moves)
    exact (Nat.le_add_right _ _).trans honce
  · intro hreceiver
    have hflow : queued = received ++ s.audio.waiting := by
      rw [haudio]
      exact RoomAudio.flow (by rwa [← haudio])
    refine ⟨?_, hflow, by rw [hreceived, hflow, List.length_append]⟩
    intro payload
    rw [← hcapacity]
    exact s.audio.offered hreceiver payload
  · exact RoomAudio.yielded_prefix _ _
  · rw [haudio, RoomAudio.dropped_calls]
    exact Nat.zero_add _
  · rw [← hcapacity, haudio]
    exact RoomAudio.fits_calls (Nat.zero_le _) _
  · intro hgone
    refine ⟨?_, gone_of_run hgone hs⟩
    intro payload
    exact ⟨by rw [s.audio.offer_of_gone hgone], step_offer_of_gone hs hgone payload⟩

/-- A queue of one place: a payload loses its odd byte and is queued, another one finds no place, and when the first one
is received there is place for a third one, which still waits when the session is closed. -/
theorem room_audio_of_one_place :
    let moves : List Move := [.openSession "room", .offer 0 [6, 7, 8], .offer 0 [9, 9], .take 0, .take 0, .receive 0,
      .offer 0 [5], .offer 0 [3, 4], .close 0] ++ Move.hungUp 0
    ∃ s : Session, ((System.new { roomAudioCapacity := 0 }).run moves).service.sessions[0]? = some s ∧
      [[7, 8], [3, 4]] = [[7, 8]] ++ s.audio.waiting ∧ s.audio.dropped = 1 ∧ s.audio.waiting.length ≤ 1 := by
  intro moves
  have hreceiver : (((System.new { roomAudioCapacity := 0 }).run moves).service.sessions[0]?).map (·.audio.receiver) =
      some .taken := by
    decide +kernel
  obtain ⟨s, hs, hreceiver⟩ := Option.map_eq_some_iff.1 hreceiver
  obtain ⟨-, hopen, -, -, hdropped, hplaces, -⟩ := (room_audio_of_run { roomAudioCapacity := 0 } moves).1 0 s hs
  have hevents : (RoomAudio.new 0).events (audioCalls 0 (System.new { roomAudioCapacity := 0 }) moves) =
      [.queued [7, 8], .turnedAway [9, 9], .handedOut, .yielded [7, 8], .queued [3, 4]] := by
    decide +kernel
  obtain ⟨-, hflow, -⟩ := hopen (by simp [hreceiver])
  rw [hevents] at hflow hdropped
  exact ⟨s, hs, hflow, hdropped, hplaces⟩

end System

end Playout
