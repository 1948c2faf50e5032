import Mathlib
import Playout.Proofs.System.Registry
import Playout.Proofs.System.Tally
import Playout.Rehearsal.Room

/-!
# A refusal changes nothing

An operation looks its session up, and a playback has its request checked, before anything is done, so that what is
refused leaves the service as it was. Only closing a session stores the gauge before it looks at what there was to
close. In a state in which the gauge is the number of registered sessions this changes nothing either, and that is every
state without a call in progress but those behind a session that was opened between the steps of a shutdown
(`System.closeSession_eq_iff_of_calm`).
-/

namespace Playout

namespace Service

variable {v : Service} {id : String} {n : Nat}

theorem find_of_unknown (h : v.registry.lookup id = none) : v.find id = .error (.sessionNotFound id) := by
  rw [find, h]

theorem openSession_of_taken (h : v.registry.lookup id = some n) :
    v.openSession id = (.error (.sessionExists id), v) := by
  rw [openSession, h]

theorem start_of_invalid {request : Request} {e : PlaybackError} (h : v.registry.lookup id = some n)
    (he : request.validate = .error e) : v.start id request = (.error (.playback e), v) := by
  simp [start, find, h, he]

theorem closeSession_of_unknown (h : v.registry.lookup id = none) :
    v.closeSession id = (.error (.sessionNotFound id), v.gauge v.registry.length) := by
  simp only [closeSession, unregister, h]
  rw [Session.filter_of_lookup_none h]

theorem gauge_eq_iff (v : Service) (count : Nat) : v.gauge count = v ↔ v.counters.sessions = count := by
  obtain ⟨-, -, -, -, counters⟩ := v
  cases counters
  simp [gauge, eq_comm]

end Service

namespace System

variable {σ : System} {id : String} {config : Config} {moves : List Move}

theorem closeSession_eq_iff_of_calm (hcalm : ((System.new config).run moves).calm = true)
    (h : ((System.new config).run moves).service.registry.lookup id = none) :
    (((System.new config).run moves).service.closeSession id).2 = ((System.new config).run moves).service ↔
      stale false (System.new config) moves = false := by
  obtain ⟨hgauge, hsome⟩ := gauged_of_run config moves (stores_of_calm hcalm)
  rw [Service.closeSession_of_unknown h, Service.gauge_eq_iff, hgauge]
  cases hstale : stale false (System.new config) moves with
  | true =>
    -- a gauge that a shutdown stored late shows none, and then there are sessions
    have hsome := List.length_pos_iff.2 (hsome hstale)
    refine iff_of_false ?_ Bool.false_ne_true.symm
    rw [if_pos rfl]
    omega
  | false => exact iff_of_true rfl rfl

/-- **A refusal changes nothing.** But closing an unknown session stores the gauge. While no call to the registry is in
progress, that changes nothing either if and only if the gauge was not last stored by a shutdown when sessions were
registered. -/
theorem refusals_change_nothing (config : Config) (moves : List Move) :
    let σ := (System.new config).run moves
    let v := σ.service
    (∀ id n, v.registry.lookup id = some n →
      (v.openSession id = (.error (.sessionExists id), v) ∧ σ.step (.openSession id) = σ) ∧
      ∀ request e, request.validate = .error e →
        v.start id request = (.error (.playback e), v) ∧ σ.step (.request id request) = σ) ∧
    ∀ id, v.registry.lookup id = none →
      (∀ request, v.start id request = (.error (.sessionNotFound id), v) ∧ σ.step (.request id request) = σ) ∧
      v.stop id = (.error (.sessionNotFound id), v) ∧
      v.takeRoomAudio id = (.error (.sessionNotFound id), v) ∧
      (∀ (w : Rehearsal.World) (track : String) (pcm : Bytes), w.service = v →
        w.pushTo id track pcm = (some (.error (.sessionNotFound id)), w)) ∧
      (v.closeSession id).1 = .error (.sessionNotFound id) ∧
      { (v.closeSession id).2 with counters.sessions := v.counters.sessions } = v ∧
      (σ.calm = true → ((v.closeSession id).2 = v ↔ stale false (System.new config) moves = false)) := by
  intro σ v
  refine ⟨?_, ?_⟩
  · intro id n h
    have hopen := Service.openSession_of_taken h
    refine ⟨⟨hopen, by rw [step, hopen]⟩, ?_⟩
    intro request e he
    exact ⟨Service.start_of_invalid h he, (σ.rejected_request (.inr ⟨e, he⟩)).1⟩
  · intro id h
    have hfind := Service.find_of_unknown h
    have hclose := Service.closeSession_of_unknown h
    refine ⟨?_, by rw [Service.stop, hfind], by rw [Service.takeRoomAudio, hfind], ?_, by rw [hclose], ?_, ?_⟩
    · intro request
      exact ⟨by rw [Service.start, hfind], (σ.rejected_request (.inl ⟨_, hfind⟩)).1⟩
    · rintro w track pcm hw
      rw [Rehearsal.World.pushTo, hw, hfind]
    · rw [hclose]
      rfl
    · intro hcalm
      exact closeSession_eq_iff_of_calm hcalm h

theorem refusals_change_nothing_of_playing :
    let v := ((System.new {}).run (.openSession "room" :: Move.started 0)).service
    let request : Request := { sourceUrl := "ftp://origin/b.wav" }
    v.start "room" request = (.error (.playback (.invalidRequest "unsupported URL scheme 'ftp'")), v) ∧
      v.sessions.map (·.active) = [some 1] ∧ v.openSession "room" = (.error (.sessionExists "room"), v) ∧
      v.closeSession "hall" = (.error (.sessionNotFound "hall"), v) := by
  intro v request
  obtain ⟨hknown, hunknown⟩ := refusals_change_nothing {} (.openSession "room" :: Move.started 0)
  obtain ⟨⟨hopen, -⟩, hstart⟩ := hknown "room" 0 (by decide +kernel)
  obtain ⟨-, -, -, -, hclose, -, hgauge⟩ := hunknown "hall" (by decide +kernel)
  refine ⟨(hstart request _ (by decide +kernel)).1, by decide +kernel, hopen, ?_⟩
  exact Prod.ext hclose ((hgauge (by decide +kernel)).2 (by decide +kernel))

/-- Behind a session that was opened between the two steps of a shutdown, no call is in progress, and closing an unknown
session changes the gauge. -/
theorem close_of_unknown_in_shutdown :
    let σ := (System.new {}).run [.shutdown, .openSession "room", .resume 0]
    σ.calm = true ∧ σ.service.registry.lookup "hall" = none ∧ σ.service.counters.sessions = 0 ∧
      (σ.service.closeSession "hall").2.counters.sessions = 1 := by
  decide +kernel

end System

end Playout
