import Mathlib
import Playout.Proofs.System.Basic

/-!
# What a move can do

A move that can be made is one of a few, and `System.Step` says of each of them what lets it be made and all that it
changes; any other move changes nothing (`System.step_spec`). What every move keeps is proved by going through these.
-/

namespace Playout

/-! ## What a service does -/

theorem Service.accept_eq_some {v v' : Service} {n k : Nat} {url : Url} {request : Request} :
    v.accept n url request = some (k, v') ↔
      ∃ s, v.sessions[n]? = some s ∧ k = v.tasks.length ∧
        v' =
          { v with
            sessions := v.sessions.modify n fun _ => s.begin.2
            tasks := v.tasks ++ [(n, Task.new v.config s.begin.1 url request)]
            counters := { v.counters with started := v.counters.started + 1 } } := by
  unfold accept beginIn
  rw [Option.map_map, Option.map_eq_some_iff]
  refine exists_congr fun s => and_congr_right fun _ => ?_
  rw [Function.comp_apply, Prod.mk.injEq]
  exact and_congr eq_comm eq_comm

theorem Service.cue_eq_some {v v' : Service} {k : Nat} {c : Cue} :
    v.cue k c = some v' ↔
      ∃ n t s t' s' m', v.tasks[k]? = some (n, t) ∧ v.sessions[n]? = some s ∧
        t.step s v.counters c = some (t', s', m') ∧
        v' =
          { v with
            sessions := v.sessions.modify n fun _ => s'
            tasks := v.tasks.set k (n, t')
            counters := m' } := by
  unfold cue
  simp only [Option.bind_eq_bind, Option.bind_eq_some_iff, Option.pure_def, Prod.exists]
  constructor
  · rintro ⟨n, t, hk, s, hs, t', s', m', ht, hv⟩
    exact ⟨n, t, s, t', s', m', hk, hs, ht, (Option.some.inj hv).symm⟩
  · rintro ⟨n, t, s, t', s', m', hk, hs, ht, hv⟩
    exact ⟨n, t, hk, s, hs, t', s', m', ht, congrArg some hv.symm⟩

namespace System

/-! ## Calling a session -/

section Dial

variable (σ : System) (n : Nat) (c : Session.Call)

@[simp] theorem service_dial : (σ.dial n c).service = σ.service := by
  unfold dial
  split <;> rfl

@[simp] theorem errands_dial : (σ.dial n c).errands = σ.errands := by
  unfold dial
  split <;> rfl

@[simp] theorem pending_dial : (σ.dial n c).pending = σ.pending := by
  unfold dial
  split <;> rfl

@[simp] theorem log_dial : (σ.dial n c).log = σ.log := by
  unfold dial
  split <;> rfl

theorem dial_cases :
    σ.dial n c = σ ∨
      ∃ s, σ.service.sessions[n]? = some s ∧ σ.dial n c = { σ with calls := σ.calls ++ [(n, c)] } := by
  unfold dial
  split
  · next hn => exact .inr ⟨_, List.getElem?_eq_getElem hn, rfl⟩
  · exact .inl rfl

end Dial

/-! ## Moves -/

/-- A move with all that lets it be made and all that it changes. -/
inductive Step (σ : System) : Move → System → Prop
  /-- The move cannot be made, or comes to nothing. -/
  | idle (m : Move) : Step σ m σ
  | opened {id : String} (hfree : σ.service.registry.lookup id = none) :
      Step σ (.openSession id)
        { σ with
          service :=
            { σ.service with
              registry := (id, σ.service.sessions.length) :: σ.service.registry
              sessions := σ.service.sessions ++ [Session.new σ.service.config id]
              counters := { σ.service.counters with sessions := σ.service.registry.length + 1 } } }
  | unregistered {id : String} {n : Nat} (hid : σ.service.registry.lookup id = some n) :
      Step σ (.unregister id)
        { σ with
          service := (σ.service.unregister id).2
          pending := σ.pending ++ [.close [n]] }
  | missed {id : String} (hid : σ.service.registry.lookup id = none) :
      Step σ (.unregister id) { σ with service := (σ.service.unregister id).2 }
  | drained :
      Step σ .shutdown
        { σ with
          service := { σ.service with registry := [] }
          pending := σ.pending ++ [.store (σ.service.registry.map Prod.snd)] }
  | requested {id : String} {request : Request} {n : Nat} {url : Url} (hid : σ.service.find id = .ok n)
      (hurl : request.validate = .ok url) :
      Step σ (.request id request) { σ with pending := σ.pending ++ [.start n url request] }
  | accepted {i n : Nat} {url : Url} {request : Request} {s : Session}
      (hi : σ.pending[i]? = some (.start n url request)) (hs : σ.service.sessions[n]? = some s) :
      Step σ (.resume i)
        { σ with
          service :=
            { σ.service with
              sessions := σ.service.sessions.modify n fun _ => s.begin.2
              tasks := σ.service.tasks ++ [(n, Task.new σ.service.config s.begin.1 url request)]
              counters := { σ.service.counters with started := σ.service.counters.started + 1 } }
          pending := σ.pending.set i (.close []) }
  | stored {i : Nat} {numbers : List Nat} (hi : σ.pending[i]? = some (.store numbers)) :
      Step σ (.resume i) { σ with service := σ.service.gauge 0, pending := σ.pending.set i (.close numbers) }
  | shutting {i n : Nat} {rest : List Nat} (hi : σ.pending[i]? = some (.close (n :: rest))) :
      Step σ (.resume i)
        { σ.dial n .shutting with pending := σ.pending.set i (.closing σ.calls.length rest) }
  | awaited {i j : Nat} {rest : List Nat} (hi : σ.pending[i]? = some (.closing j rest))
      (hdone : σ.calls[j]?.any (·.2.isDone) = true) :
      Step σ (.resume i) { σ with pending := σ.pending.set i (.close rest) }
  | played {k n : Nat} {cue : Cue} {t t' : Task} {s s' : Session} {m' : Counters}
      (hk : σ.service.tasks[k]? = some (n, t)) (hs : σ.service.sessions[n]? = some s)
      (ht : t.step s σ.service.counters cue = some (t', s', m')) :
      Step σ (.play k cue)
        { σ with
          service :=
            { σ.service with
              sessions := σ.service.sessions.modify n fun _ => s'
              tasks := σ.service.tasks.set k (n, t')
              counters := m' }
          log := σ.log ++ (t.notes s cue t').map (n, ·) }
  | cancelled {k n : Nat} {t : Task} (hk : σ.service.tasks[k]? = some (n, t)) :
      Step σ (.cancel k) (σ.update n (·.cancel t.slot))
  | stopped (n : Nat) : Step σ (.stop n) (σ.update n Session.preempt)
  | closing (n : Nat) : Step σ (.close n) (σ.dial n .shutting)
  | closingTrack (n : Nat) (name : String) : Step σ (.closeTrack n name) (σ.dial n (.unlisting name))
  | proceeded {i n : Nat} {p : Session.Call.Prompt} {c c' : Session.Call} {s s' : Session}
      (hi : σ.calls[i]? = some (n, c)) (hs : σ.service.sessions[n]? = some s) (hc : c.step s p = some (c', s')) :
      Step σ (.proceed i p) { σ.update n fun _ => s' with calls := σ.calls.set i (n, c') }
  | tracking {n : Nat} {name : String} {s : Session} (hs : σ.service.sessions[n]? = some s) :
      Step σ (.track n name) { σ with errands := σ.errands ++ [(n, .track name .asking)] }
  | pushing {n : Nat} {name : String} {pcm : Bytes} {s : Session} (hs : σ.service.sessions[n]? = some s) :
      Step σ (.push n name pcm) { σ with errands := σ.errands ++ [(n, .push (Push.new s name pcm))] }
  | attended {i n : Nat} {cue : Cue} {e e' : Errand} {s s' : Session} {m' : Counters}
      (hi : σ.errands[i]? = some (n, e)) (hs : σ.service.sessions[n]? = some s)
      (he : e.step s σ.service.counters cue = some (e', s', m')) :
      Step σ (.attend i cue)
        { σ with
          service := { σ.service.update n fun _ => s' with counters := m' }
          errands := σ.errands.set i (n, e')
          log := σ.log ++ (e.notes e').map (n, ·) }
  | offered {n : Nat} {payload : Bytes} {s : Session} (hs : σ.service.sessions[n]? = some s) :
      Step σ (.offer n payload)
        { σ with
          service :=
            { σ.service.update n fun s' => { s' with audio := (s.audio.offer payload).2 } with
              counters := σ.service.counters.countOffer (s.audio.offer payload).1 } }
  | taken (n : Nat) : Step σ (.take n) (σ.update n fun s => { s with audio := s.audio.take.2 })
  | received (n : Nat) : Step σ (.receive n) (σ.update n fun s => { s with audio := s.audio.receive.2 })
  | dropped (n : Nat) : Step σ (.dropReceiver n) (σ.update n fun s => { s with audio := s.audio.dropReceiver })

theorem step_resume (σ : System) (i : Nat) : σ.Step (.resume i) (σ.resume i) := by
  unfold resume
  split
  · next hi =>
    split
    · next ha =>
      obtain ⟨s, hs, -, rfl⟩ := Service.accept_eq_some.1 ha
      exact .accepted hi hs
    · exact .idle _
  · next hi => exact .stored hi
  · next hi => exact .shutting hi
  · next hi =>
    split
    · next hdone => exact .awaited hi hdone
    · exact .idle _
  · exact .idle _
  · exact .idle _

theorem step_play (σ : System) (k : Nat) (cue : Cue) : σ.Step (.play k cue) (σ.play k cue) := by
  unfold play
  split
  · exact .idle _
  · next n t hk =>
    split
    · next s v hs hv =>
      obtain ⟨n', t₀, s₀, t', s', m', hk', hs', ht, rfl⟩ := Service.cue_eq_some.1 hv
      obtain ⟨rfl, rfl⟩ : n = n' ∧ t = t₀ := Prod.mk.inj (Option.some.inj (hk.symm.trans hk'))
      obtain rfl : s = s₀ := Option.some.inj (hs.symm.trans hs')
      have hset : (σ.service.tasks.set k (n, t'))[k]? = some (n, t') :=
        List.getElem?_set_self (List.getElem?_eq_some_iff.1 hk).1
      simp only [hset, Option.map_some, Option.getD_some]
      exact .played hk hs ht
    · exact .idle _

theorem step_attend (σ : System) (i : Nat) (cue : Cue) : σ.Step (.attend i cue) (σ.attend i cue) := by
  unfold attend
  split
  · exact .idle _
  · next n e hi =>
    split
    · exact .idle _
    · next e' s' m' h =>
      obtain ⟨s, hs, he⟩ := Option.bind_eq_some_iff.1 h
      exact .attended hi hs he

theorem step_proceed (σ : System) (i : Nat) (p : Session.Call.Prompt) :
    σ.Step (.proceed i p) (σ.proceed i p) := by
  unfold proceed
  split
  · exact .idle _
  · next n c hi =>
    split
    · exact .idle _
    · next c' s' h =>
      obtain ⟨s, hs, hc⟩ := Option.bind_eq_some_iff.1 h
      exact .proceeded hi hs hc

/-- A move is one of those named. -/
theorem step_spec (σ : System) (m : Move) : σ.Step m (σ.step m) := by
  cases m with
  | openSession id =>
    simp only [step, Service.openSession]
    split
    · exact .idle _
    · next hfree => exact .opened hfree
  | unregister id =>
    simp only [step]
    split
    · next h =>
      obtain ⟨hid, rfl⟩ := Prod.ext_iff.1 h
      exact .unregistered hid
    · next h =>
      obtain ⟨hid, rfl⟩ := Prod.ext_iff.1 h
      exact .missed hid
  | shutdown => exact .drained
  | request id request =>
    simp only [step]
    split
    · next hid hurl => exact .requested hid hurl
    · exact .idle _
  | resume i => exact σ.step_resume i
  | play k cue => exact σ.step_play k cue
  | cancel k =>
    simp only [step, Service.cancelTask]
    split
    · next hk => exact .cancelled hk
    · exact .idle _
  | stop n => exact .stopped n
  | close n => exact .closing n
  | closeTrack n name => exact .closingTrack n name
  | proceed i p => exact σ.step_proceed i p
  | track n name =>
    simp only [step]
    split
    · next hn => exact .tracking (List.getElem?_eq_getElem hn)
    · exact .idle _
  | push n name pcm =>
    simp only [step]
    split
    · next hs => exact .pushing hs
    · exact .idle _
  | attend i cue => exact σ.step_attend i cue
  | offer n payload =>
    simp only [step]
    split
    · next hs => exact .offered hs
    · exact .idle _
  | take n => exact .taken n
  | receive n => exact .received n
  | dropReceiver n => exact .dropped n

end System

end Playout
