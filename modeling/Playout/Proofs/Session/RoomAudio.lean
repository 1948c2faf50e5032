import Mathlib
import Playout.Session.RoomAudio

/-!
# What goes through the queue of room audio

`RoomAudio.Transition` names what a call to a queue can do, together with what comes of it: a payload is queued or
turned away, the receiving end is handed out, the consumer receives a payload. The payloads that are queued while a
queue is used, and those that are received, make the difference between what waits before and what waits behind
(`RoomAudio.flow`), as long as there is anybody to receive them.
-/

namespace Playout.RoomAudio

inductive Call where
  | offer (payload : Bytes)
  | take
  | receive
  | dropReceiver
  /-- Its session is closed. -/
  | withdraw
deriving DecidableEq, Repr

inductive Event where
  | queued (payload : Bytes)
  /-- All places were taken. -/
  | turnedAway (payload : Bytes)
  | handedOut
  | yielded (payload : Bytes)
deriving DecidableEq, Repr

namespace Event

def queued? : Event → Option Bytes
  | .queued payload => some payload
  | _ => none

def turnedAway? : Event → Option Bytes
  | .turnedAway payload => some payload
  | _ => none

def yielded? : Event → Option Bytes
  | .yielded payload => some payload
  | _ => none

end Event

def call (q : RoomAudio) : Call → RoomAudio
  | .offer payload => (q.offer payload).2
  | .take => q.take.2
  | .receive => q.receive.2
  | .dropReceiver => q.dropReceiver
  | .withdraw => q.withdraw

def event? (q : RoomAudio) : Call → Option Event
  | .offer payload =>
    match (q.offer payload).1 with
    | .queued => some (.queued (wholeSamples payload))
    | .full => some (.turnedAway (wholeSamples payload))
    | .refused => none
  | .take => if q.take.1 then some .handedOut else none
  | .receive => q.receive.1.map .yielded
  | .dropReceiver | .withdraw => none

def calls (q : RoomAudio) (run : List Call) : RoomAudio := run.foldl call q

def events (q : RoomAudio) : List Call → List Event
  | [] => []
  | c :: run => (q.event? c).toList ++ events (q.call c) run

variable {q q' : RoomAudio} {c : Call} {e : Option Event} {run : List Call}

theorem calls_append (q : RoomAudio) (run more : List Call) : q.calls (run ++ more) = (q.calls run).calls more :=
  List.foldl_append

/-! ## Calls -/

/-- What a call can do, and what comes of it. -/
inductive Transition (q : RoomAudio) : Option Event → RoomAudio → Prop
  | rest : Transition q none q
  /-- The receiving end is gone, and what waited with it. -/
  | ended : Transition q none q.dropReceiver
  | queued {payload : Bytes} (hreceiver : q.receiver ≠ .gone) (hplace : q.waiting.length < q.capacity) :
      Transition q (some (.queued payload))
        { q with waiting := q.waiting ++ [payload], received := q.received + 1 }
  | turnedAway {payload : Bytes} (hreceiver : q.receiver ≠ .gone) (hfull : q.capacity ≤ q.waiting.length) :
      Transition q (some (.turnedAway payload)) { q with dropped := q.dropped + 1 }
  | handedOut (hheld : q.receiver = .held) : Transition q (some .handedOut) { q with receiver := .taken }
  | yielded {payload : Bytes} {rest : List Bytes} (htaken : q.receiver = .taken)
      (hwaiting : q.waiting = payload :: rest) :
      Transition q (some (.yielded payload)) { q with waiting := rest }

theorem offer_cases (q : RoomAudio) (payload : Bytes) :
    (wholeSamples payload = [] ∨ q.receiver = .gone) ∧ q.offer payload = (.refused, q) ∨
    wholeSamples payload ≠ [] ∧ q.receiver ≠ .gone ∧ q.waiting.length < q.capacity ∧
      q.offer payload =
        (.queued, { q with waiting := q.waiting ++ [wholeSamples payload], received := q.received + 1 }) ∨
    wholeSamples payload ≠ [] ∧ q.receiver ≠ .gone ∧ q.capacity ≤ q.waiting.length ∧
      q.offer payload = (.full, { q with dropped := q.dropped + 1 }) := by
  unfold offer
  dsimp only
  split
  · next hrefused => exact .inl ⟨hrefused, rfl⟩
  · next hgoes =>
    rw [not_or] at hgoes
    split
    · next hplace => exact .inr (.inl ⟨hgoes.1, hgoes.2, hplace, rfl⟩)
    · next hfull => exact .inr (.inr ⟨hgoes.1, hgoes.2, Nat.le_of_not_lt hfull, rfl⟩)

theorem receiver_withdraw (q : RoomAudio) : q.withdraw.receiver ≠ .held := by
  unfold withdraw
  split
  · exact nofun
  · next hheld => exact hheld

theorem offer_of_gone (h : q.receiver = .gone) (payload : Bytes) : q.offer payload = (.refused, q) :=
  if_pos (.inr h)

theorem waiting_take (q : RoomAudio) : q.take.2.waiting = q.waiting := by
  unfold take
  split <;> rfl

theorem receiver_take (h : q.receiver ≠ .gone) : q.take.2.receiver ≠ .gone := by
  unfold take
  split
  · simp
  · exact h

theorem receive_append_waiting (q : RoomAudio) : q.receive.1.toList ++ q.receive.2.waiting = q.waiting := by
  unfold receive
  split
  · next hwaiting => simp [hwaiting]
  · rfl

theorem receiver_receive (q : RoomAudio) : q.receive.2.receiver = q.receiver := by
  unfold receive
  split <;> rfl

theorem offered (h : q.receiver ≠ .gone) (payload : Bytes) :
    ((q.offer payload).1 = .queued ↔ wholeSamples payload ≠ [] ∧ q.waiting.length < q.capacity) ∧
      ((q.offer payload).1 = .full ↔ wholeSamples payload ≠ [] ∧ q.capacity ≤ q.waiting.length) := by
  rcases q.offer_cases payload with ⟨hnil | hgone, heq⟩ | ⟨hsome, -, hplace, heq⟩ | ⟨hsome, -, hfull, heq⟩
  · simp [heq, hnil]
  · exact absurd hgone h
  · simp [heq, hsome, hplace]
  · simp [heq, hsome, hfull]

theorem transition_call (q : RoomAudio) (c : Call) : q.Transition (q.event? c) (q.call c) := by
  cases c with
  | offer payload =>
    rw [event?, call]
    rcases q.offer_cases payload with ⟨-, heq⟩ | ⟨-, hreceiver, hplace, heq⟩ | ⟨-, hreceiver, hfull, heq⟩ <;> rw [heq]
    · exact .rest
    · exact .queued hreceiver hplace
    · exact .turnedAway hreceiver hfull
  | take =>
    by_cases hheld : q.receiver = .held
    · simpa [event?, call, take, hheld] using Transition.handedOut hheld
    · simpa [event?, call, take, hheld] using Transition.rest
  | receive =>
    rw [event?, call, receive]
    split
    · next htaken hwaiting => exact .yielded htaken hwaiting
    · exact .rest
  | dropReceiver => exact .ended
  | withdraw =>
    rw [event?, call, withdraw]
    split
    · exact .ended
    · exact .rest

namespace Transition

theorem capacity (h : q.Transition e q') : q'.capacity = q.capacity := by
  cases h <;> rfl

theorem fits (h : q.Transition e q') (hfits : q.waiting.length ≤ q.capacity) :
    q'.waiting.length ≤ q'.capacity := by
  cases h with
  | rest | turnedAway | handedOut => exact hfits
  | ended => exact Nat.zero_le _
  | queued _ hplace =>
    rw [List.length_append]
    exact hplace
  | yielded _ hwaiting =>
    rw [hwaiting] at hfits
    exact (Nat.le_succ _).trans hfits

theorem gone (h : q.Transition e q') (hgone : q.receiver = .gone) : q'.receiver = .gone ∧ e = none := by
  cases h with
  | rest => exact ⟨hgone, rfl⟩
  | ended => exact ⟨rfl, rfl⟩
  | queued hreceiver | turnedAway hreceiver => exact absurd hgone hreceiver
  | handedOut hheld => cases hgone.symm.trans hheld
  | yielded htaken => cases hgone.symm.trans htaken

theorem held (h : q.Transition e q') (hheld : q'.receiver = .held) : q.receiver = .held := by
  cases h with
  | rest | queued | turnedAway | yielded => exact hheld
  | ended | handedOut => cases hheld

/-- What waits before a call and what it queues are what it yields and what waits behind. -/
theorem flow (h : q.Transition e q') (hreceiver : q'.receiver ≠ .gone) :
    q.waiting ++ e.toList.filterMap Event.queued? = e.toList.filterMap Event.yielded? ++ q'.waiting := by
  cases h with
  | ended => exact (hreceiver rfl).elim
  | queued => rfl
  | yielded _ hwaiting =>
    rw [hwaiting]
    exact List.append_nil _
  | rest | turnedAway | handedOut => exact List.append_nil _

theorem yielded_prefix (h : q.Transition e q') : e.toList.filterMap Event.yielded? <+: q.waiting := by
  cases h with
  | yielded _ hwaiting =>
    rw [hwaiting]
    exact List.prefix_append _ _
  | _ => exact List.nil_prefix

theorem received (h : q.Transition e q') :
    q'.received = q.received + (e.toList.filterMap Event.queued?).length := by
  cases h <;> rfl

theorem dropped (h : q.Transition e q') :
    q'.dropped = q.dropped + (e.toList.filterMap Event.turnedAway?).length := by
  cases h <;> rfl

/-- Of being handed out and being held behind it there is not more than of being held before. -/
theorem handedOut_once (h : q.Transition e q') :
    e.toList.count .handedOut + (decide (q'.receiver = .held)).toNat ≤ (decide (q.receiver = .held)).toNat := by
  cases h with
  | handedOut hheld => simp [hheld]
  | ended => simp [dropReceiver]
  | _ => simp

end Transition

/-! ## Runs of calls -/

theorem capacity_calls (q : RoomAudio) (run : List Call) : (q.calls run).capacity = q.capacity := by
  induction run generalizing q with
  | nil => rfl
  | cons c run ih => exact (ih _).trans (q.transition_call c).capacity

theorem fits_calls (h : q.waiting.length ≤ q.capacity) (run : List Call) :
    (q.calls run).waiting.length ≤ (q.calls run).capacity := by
  induction run generalizing q with
  | nil => exact h
  | cons c run ih => exact ih ((q.transition_call c).fits h)

theorem gone_calls (h : q.receiver = .gone) (run : List Call) :
    (q.calls run).receiver = .gone ∧ q.events run = [] := by
  induction run generalizing q with
  | nil => exact ⟨h, rfl⟩
  | cons c run ih =>
    obtain ⟨hgone, hevent⟩ := (q.transition_call c).gone h
    rw [events, hevent]
    exact ih hgone

theorem receiver_calls (h : q.receiver ≠ .held) (run : List Call) : (q.calls run).receiver ≠ .held := by
  induction run generalizing q with
  | nil => exact h
  | cons c run ih => exact ih fun hheld => h ((q.transition_call c).held hheld)

/-- What waits before a run and what it queues are what it yields and what waits behind, in this order. -/
theorem flow (h : (q.calls run).receiver ≠ .gone) :
    q.waiting ++ (q.events run).filterMap Event.queued? =
      (q.events run).filterMap Event.yielded? ++ (q.calls run).waiting := by
  induction run generalizing q with
  | nil => exact List.append_nil _
  | cons c run ih =>
    have hc : (q.call c).receiver ≠ .gone := by
      intro hgone
      exact h (gone_calls hgone run).1
    rw [events, List.filterMap_append, List.filterMap_append, ← List.append_assoc, (q.transition_call c).flow hc,
      List.append_assoc, ih h, List.append_assoc]
    rfl

theorem yielded_prefix (q : RoomAudio) (run : List Call) :
    (q.events run).filterMap Event.yielded? <+: q.waiting ++ (q.events run).filterMap Event.queued? := by
  induction run generalizing q with
  | nil => exact List.nil_prefix
  | cons c run ih =>
    have hcall := q.transition_call c
    rw [events, List.filterMap_append, List.filterMap_append]
    by_cases hgone : (q.call c).receiver = .gone
    · rw [(gone_calls hgone run).2, List.filterMap_nil, List.append_nil]
      exact hcall.yielded_prefix.trans (List.prefix_append _ _)
    · rw [← List.append_assoc, hcall.flow hgone, List.append_assoc, List.prefix_append_right_inj]
      exact ih _

theorem received_calls (q : RoomAudio) (run : List Call) :
    (q.calls run).received = q.received + ((q.events run).filterMap Event.queued?).length := by
  induction run generalizing q with
  | nil => rfl
  | cons c run ih =>
    rw [events, List.filterMap_append, List.length_append, ← Nat.add_assoc, ← (q.transition_call c).received]
    exact ih _

theorem dropped_calls (q : RoomAudio) (run : List Call) :
    (q.calls run).dropped = q.dropped + ((q.events run).filterMap Event.turnedAway?).length := by
  induction run generalizing q with
  | nil => rfl
  | cons c run ih =>
    rw [events, List.filterMap_append, List.length_append, ← Nat.add_assoc, ← (q.transition_call c).dropped]
    exact ih _

theorem handedOut_calls (q : RoomAudio) (run : List Call) :
    (q.events run).count .handedOut + (decide ((q.calls run).receiver = .held)).toNat ≤
      (decide (q.receiver = .held)).toNat := by
  induction run generalizing q with
  | nil => exact (Nat.zero_add _).le
  | cons c run ih =>
    have hcall := (q.transition_call c).handedOut_once
    have hrun := ih (q.call c)
    rw [events, List.count_append]
    exact (Nat.add_assoc _ _ _).le.trans ((Nat.add_le_add_left hrun _).trans hcall)

end Playout.RoomAudio
