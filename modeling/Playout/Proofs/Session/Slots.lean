import Mathlib
import Playout.Session.Basic

/-!
# Slots of a session

Which slots are held, which tokens are cancelled and what the handle names, behind any run of the calls that
change them: beginning a playback, stopping, dropping a slot, cancelling the token of a slot, closing.

`SlotsInOrder` is what every such call keeps: slots are numbered in the order in which they were begun, the
handle names the last of them while it is held, and every other held slot is cancelled. The other parts of a
session do not enter, so whatever else is done to a session keeps it as well (`SlotsInOrder.of_same`).
-/

namespace Playout.Session

/-! ## What each operation does to the slots -/

theorem ids_updateSlot (s : Session) (i : Nat) {f : Slot → Slot} (hf : ∀ slot, (f slot).id = slot.id) :
    (s.updateSlot i f).slots.map (·.id) = s.slots.map (·.id) := by
  simp only [updateSlot, List.map_map]
  refine List.map_congr_left fun slot _ => ?_
  by_cases h : slot.id = i <;> simp [h, hf]

@[simp] theorem ids_cancel (s : Session) (i : Nat) :
    (s.cancel i).slots.map (·.id) = s.slots.map (·.id) :=
  s.ids_updateSlot i fun _ => rfl

@[simp] theorem ids_preempt (s : Session) : s.preempt.slots.map (·.id) = s.slots.map (·.id) := by
  unfold preempt
  split
  · rfl
  · exact s.ids_cancel _

@[simp] theorem ids_finish (s : Session) (i : Nat) :
    (s.finish i).slots.map (·.id) = s.slots.map (·.id) := by
  unfold finish
  dsimp only
  split <;> exact s.ids_updateSlot i fun _ => rfl

@[simp] theorem ids_begin (s : Session) :
    s.begin.2.slots.map (·.id) = s.slots.map (·.id) ++ [s.begin.1] := by
  simp [begin]

@[simp] theorem length_cancel (s : Session) (i : Nat) : (s.cancel i).slots.length = s.slots.length := by
  simpa only [List.length_map] using congrArg List.length (s.ids_cancel i)

@[simp] theorem length_preempt (s : Session) : s.preempt.slots.length = s.slots.length := by
  simpa only [List.length_map] using congrArg List.length s.ids_preempt

@[simp] theorem length_finish (s : Session) (i : Nat) : (s.finish i).slots.length = s.slots.length := by
  simpa only [List.length_map] using congrArg List.length (s.ids_finish i)

@[simp] theorem length_begin (s : Session) : s.begin.2.slots.length = s.slots.length + 1 := by
  simpa only [List.length_map, List.length_append, List.length_singleton] using
    congrArg List.length s.ids_begin

theorem begin_fst (s : Session) : s.begin.1 = s.slots.length + 1 := by
  rw [begin, nextId, length_preempt]

/-! ### Held slots -/

theorem isHeld_iff {s : Session} {i : Nat} :
    s.isHeld i = true ↔ ∃ slot ∈ s.slots, slot.id = i ∧ slot.held = true := by
  simp [isHeld]

theorem mem_ids_of_isHeld {s : Session} {i : Nat} (h : s.isHeld i = true) :
    i ∈ s.slots.map (·.id) := by
  obtain ⟨slot, hs, rfl, -⟩ := isHeld_iff.1 h
  exact List.mem_map_of_mem hs

@[simp] theorem isHeld_cancel (s : Session) (i j : Nat) : (s.cancel i).isHeld j = s.isHeld j := by
  simp only [isHeld, cancel, updateSlot, List.any_map]
  congr 1
  funext slot
  by_cases h : slot.id = i <;> simp [h]

@[simp] theorem isHeld_preempt (s : Session) (j : Nat) : s.preempt.isHeld j = s.isHeld j := by
  unfold preempt
  split
  · rfl
  · exact s.isHeld_cancel _ j

@[simp] theorem isHeld_begin (s : Session) (j : Nat) :
    s.begin.2.isHeld j = (s.isHeld j || decide (s.begin.1 = j)) := by
  rw [← s.isHeld_preempt j]
  simp only [begin, isHeld, List.any_append, List.any_cons, List.any_nil, Bool.and_true, Bool.or_false]
  rfl

@[simp] theorem isHeld_finish (s : Session) (i j : Nat) :
    (s.finish i).isHeld j = (s.isHeld j && decide (j ≠ i)) := by
  have hu : (s.updateSlot i ({ · with held := false })).isHeld j = (s.isHeld j && decide (j ≠ i)) := by
    rw [Bool.eq_iff_iff, Bool.and_eq_true, isHeld_iff, isHeld_iff]
    simp only [updateSlot, List.mem_map, decide_eq_true_eq]
    constructor
    · rintro ⟨_, ⟨slot, hs, rfl⟩, hid, hheld⟩
      by_cases h : slot.id = i
      · simp [h] at hheld
      · simp only [if_neg h] at hid hheld
        exact ⟨⟨slot, hs, hid, hheld⟩, by rwa [← hid]⟩
    · rintro ⟨⟨slot, hs, hid, hheld⟩, hne⟩
      refine ⟨slot, ⟨slot, hs, if_neg (by rwa [hid])⟩, hid, hheld⟩
  unfold finish
  dsimp only
  split <;> exact hu

/-! ### Cancelled tokens -/

theorem isCancelled_iff {s : Session} {i : Nat} :
    s.isCancelled i = true ↔ s.revoked = true ∨ ∃ slot ∈ s.slots, slot.id = i ∧ slot.cancelled = true := by
  simp [isCancelled]

theorem isCancelled_of_revoked {s : Session} (h : s.revoked = true) (i : Nat) :
    s.isCancelled i = true :=
  isCancelled_iff.2 (.inl h)

theorem isCancelled_cancel_of_ne (s : Session) {i j : Nat} (h : j ≠ i) :
    (s.cancel i).isCancelled j = s.isCancelled j := by
  simp only [isCancelled, cancel, updateSlot, List.any_map]
  congr 2
  funext slot
  by_cases hi : slot.id = i
  · simp [hi, Ne.symm h]
  · simp [hi]

theorem isCancelled_cancel_self {s : Session} {i : Nat} (h : i ∈ s.slots.map (·.id)) :
    (s.cancel i).isCancelled i = true := by
  obtain ⟨slot, hs, rfl⟩ := List.mem_map.1 h
  refine isCancelled_iff.2 (.inr ⟨{ slot with cancelled := true }, ?_, rfl, rfl⟩)
  exact List.mem_map.2 ⟨slot, hs, if_pos rfl⟩

theorem isCancelled_cancel_of_isCancelled {s : Session} {j : Nat} (i : Nat) (h : s.isCancelled j = true) :
    (s.cancel i).isCancelled j = true := by
  rcases isCancelled_iff.1 h with hr | ⟨slot, hs, rfl, hc⟩
  · exact isCancelled_iff.2 (.inl hr)
  · refine isCancelled_iff.2 (.inr ⟨_, List.mem_map.2 ⟨slot, hs, rfl⟩, ?_⟩)
    by_cases hi : slot.id = i <;> simp [hi, hc]

theorem isCancelled_preempt_of_isCancelled {s : Session} {j : Nat} (h : s.isCancelled j = true) :
    s.preempt.isCancelled j = true := by
  unfold preempt
  split
  · exact h
  · exact isCancelled_cancel_of_isCancelled _ h

theorem isCancelled_begin (s : Session) (j : Nat) : s.begin.2.isCancelled j = s.preempt.isCancelled j := by
  simp [begin, isCancelled]

@[simp] theorem isCancelled_finish (s : Session) (i j : Nat) :
    (s.finish i).isCancelled j = s.isCancelled j := by
  have hu : (s.updateSlot i ({ · with held := false })).isCancelled j = s.isCancelled j := by
    simp only [isCancelled, updateSlot, List.any_map]
    congr 2
    funext slot
    by_cases h : slot.id = i <;> simp [h]
  unfold finish
  dsimp only
  split <;> exact hu

/-! ### The handle -/

@[simp] theorem active_cancel (s : Session) (i : Nat) : (s.cancel i).active = s.active := rfl

@[simp] theorem active_preempt (s : Session) : s.preempt.active = none := by
  unfold preempt
  split
  · next h => exact h
  · rfl

@[simp] theorem active_begin (s : Session) : s.begin.2.active = some s.begin.1 := rfl

theorem active_finish (s : Session) (i : Nat) :
    (s.finish i).active = if s.active = some i then none else s.active := by
  unfold finish
  dsimp only [updateSlot]
  split <;> rfl

/-! ### The token of the session -/

@[simp] theorem revoked_cancel (s : Session) (i : Nat) : (s.cancel i).revoked = s.revoked := rfl

@[simp] theorem closed_cancel (s : Session) (i : Nat) : (s.cancel i).closed = s.closed := rfl

@[simp] theorem revoked_preempt (s : Session) : s.preempt.revoked = s.revoked := by
  unfold preempt
  split <;> rfl

@[simp] theorem closed_preempt (s : Session) : s.preempt.closed = s.closed := by
  unfold preempt
  split <;> rfl

@[simp] theorem revoked_begin (s : Session) : s.begin.2.revoked = s.revoked := s.revoked_preempt

@[simp] theorem closed_begin (s : Session) : s.begin.2.closed = s.closed := s.closed_preempt

@[simp] theorem revoked_finish (s : Session) (i : Nat) : (s.finish i).revoked = s.revoked := by
  unfold finish
  dsimp only
  split <;> rfl

@[simp] theorem closed_finish (s : Session) (i : Nat) : (s.finish i).closed = s.closed := by
  unfold finish
  dsimp only
  split <;> rfl

/-! ### Closing -/

theorem foldl_closeHandle (handles : List Handle) (s : Session) :
    handles.foldl closeHandle s = { s with room := handles.foldl Room.closeTrack s.room } := by
  induction handles generalizing s with
  | nil => rfl
  | cons h handles ih =>
    rw [List.foldl_cons, ih]
    rfl

theorem close_of_closed {s : Session} (h : s.closed = true) : s.close = s := if_pos h

theorem close_of_open {s : Session} (h : s.closed = false) :
    s.close =
      { s with
        closed := true
        revoked := true
        active := none
        tracks := []
        room := ((s.tracks.map Prod.snd).foldl Room.closeTrack s.room).disconnect
        audio := s.audio.withdraw } := by
  simp only [close, h, Bool.false_eq_true, if_false, drain, foldl_closeHandle]
  rfl

@[simp] theorem slots_close (s : Session) : s.close.slots = s.slots := by
  cases h : s.closed with
  | false => rw [close_of_open h]
  | true => rw [close_of_closed h]

@[simp] theorem closed_close (s : Session) : s.close.closed = true := by
  cases h : s.closed with
  | false => rw [close_of_open h]
  | true => rw [close_of_closed h, h]

/-! ## The order of slots -/

/-- Slots are numbered from one in the order in which they were begun. The handle names the last of them and
that one is held. Every other held slot is cancelled. The token above all is cancelled in a closed session only. -/
structure SlotsInOrder (s : Session) : Prop where
  ids : s.slots.map (·.id) = List.range' 1 s.slots.length
  active : ∀ i, s.active = some i → i = s.slots.length ∧ s.isHeld i = true
  others : ∀ i, s.isHeld i = true → s.active ≠ some i → s.isCancelled i = true
  revoked : s.revoked = true → s.closed = true

namespace SlotsInOrder

variable {s : Session}

theorem new (config : Config) (name : String) : SlotsInOrder (Session.new config name) where
  ids := rfl
  active := by simp [Session.new]
  others := by simp [Session.new, isHeld]
  revoked := by simp [Session.new]

theorem of_same {s' : Session} (hs : s.SlotsInOrder) (hslots : s'.slots = s.slots)
    (hactive : s'.active = s.active) (hrevoked : s'.revoked = s.revoked) (hclosed : s'.closed = s.closed) :
    s'.SlotsInOrder := by
  obtain ⟨ids, active, others, revoked⟩ := hs
  refine ⟨by rwa [hslots], ?_, ?_, by rwa [hrevoked, hclosed]⟩
  · simpa only [isHeld, hslots, hactive] using active
  · simpa only [isHeld, isCancelled, hslots, hactive, hrevoked] using others

theorem le_length (hs : s.SlotsInOrder) {i : Nat} (h : i ∈ s.slots.map (·.id)) :
    1 ≤ i ∧ i ≤ s.slots.length := by
  rw [hs.ids, List.mem_range'_1] at h
  omega

theorem cancel (hs : s.SlotsInOrder) (i : Nat) : (s.cancel i).SlotsInOrder where
  ids := by rw [ids_cancel, length_cancel, hs.ids]
  active j hj := by
    rw [length_cancel, isHeld_cancel]
    exact hs.active j hj
  others j hj hne := by
    rw [isHeld_cancel] at hj
    exact isCancelled_cancel_of_isCancelled i (hs.others j hj hne)
  revoked := hs.revoked

theorem preempt (hs : s.SlotsInOrder) : s.preempt.SlotsInOrder where
  ids := by rw [ids_preempt, length_preempt, hs.ids]
  active i hi := by simp at hi
  others i hi _ := by
    rw [isHeld_preempt] at hi
    by_cases hne : s.active = some i
    · simp only [Session.preempt, hne]
      exact isCancelled_cancel_self (mem_ids_of_isHeld hi)
    · exact isCancelled_preempt_of_isCancelled (hs.others i hi hne)
  revoked := by simpa using hs.revoked

theorem isCancelled_preempt (hs : s.SlotsInOrder) {i : Nat} (hi : s.isHeld i = true) :
    s.preempt.isCancelled i = true :=
  hs.preempt.others i (by rwa [isHeld_preempt]) (by simp)

theorem begin (hs : s.SlotsInOrder) : s.begin.2.SlotsInOrder where
  ids := by rw [ids_begin, length_begin, hs.ids, begin_fst, List.range'_1_concat, Nat.add_comm 1]
  active i hi := by
    obtain rfl : s.begin.1 = i := by simpa using hi
    exact ⟨by rw [length_begin, begin_fst], by simp⟩
  others i hi hne := by
    have hne : s.begin.1 ≠ i := by simpa using hne
    rw [isHeld_begin, Bool.or_eq_true, decide_eq_true_eq] at hi
    rw [isCancelled_begin]
    exact hs.isCancelled_preempt (hi.resolve_right hne)
  revoked := by simpa using hs.revoked

theorem finish (hs : s.SlotsInOrder) (i : Nat) : (s.finish i).SlotsInOrder where
  ids := by rw [ids_finish, length_finish, hs.ids]
  active j hj := by
    rw [active_finish] at hj
    split at hj
    · cases hj
    · next hne =>
      obtain ⟨hlast, hheld⟩ := hs.active j hj
      rw [length_finish, isHeld_finish, hheld, Bool.true_and, decide_eq_true_eq]
      exact ⟨hlast, fun h => hne (h ▸ hj)⟩
  others j hj hne := by
    rw [isHeld_finish, Bool.and_eq_true, decide_eq_true_eq] at hj
    rw [isCancelled_finish]
    refine hs.others j hj.1 fun h => hne ?_
    rw [active_finish, if_neg, h]
    rw [h]
    exact fun h => hj.2 (Option.some.inj h)
  revoked := by simpa using hs.revoked

theorem shut (hs : s.SlotsInOrder) : s.shut.SlotsInOrder :=
  ⟨hs.ids, hs.active, hs.others, fun _ => rfl⟩

theorem revoke (hs : s.SlotsInOrder) (hclosed : s.closed = true) : s.revoke.SlotsInOrder :=
  ⟨hs.ids, hs.active, fun i _ _ => isCancelled_of_revoked rfl i, fun _ => hclosed⟩

/-- Where every token is cancelled, the handle is taken away from nobody who could go on. -/
theorem drain (hs : s.SlotsInOrder) (hrevoked : s.revoked = true) : s.drain.2.SlotsInOrder :=
  ⟨hs.ids, nofun, fun i _ _ => isCancelled_of_revoked hrevoked i, hs.revoked⟩

theorem close (hs : s.SlotsInOrder) : s.close.SlotsInOrder := by
  cases h : s.closed with
  | true => rwa [close_of_closed h]
  | false =>
    have hdrain : s.shut.revoke.drain.2.SlotsInOrder := (hs.shut.revoke rfl).drain rfl
    rw [close_of_open h]
    exact hdrain.of_same rfl rfl rfl rfl

theorem eq_of_live (hs : s.SlotsInOrder) {i j : Nat} (hi : s.isHeld i = true) (hj : s.isHeld j = true)
    (hli : s.isCancelled i = false) (hlj : s.isCancelled j = false) : i = j := by
  have hactive : ∀ k, s.isHeld k = true → s.isCancelled k = false → s.active = some k := by
    intro k hk hlive
    by_contra hne
    rw [hs.others k hk hne] at hlive
    cases hlive
  have h := (hactive i hi hli).symm.trans (hactive j hj hlj)
  exact Option.some.inj h

end SlotsInOrder

/-! ## Runs of calls -/

/-- The calls that change the slots of a session. -/
inductive SlotCall where
  /-- A playback is begun. -/
  | begin
  /-- The playback in flight is stopped. -/
  | stop
  /-- A slot is dropped. -/
  | drop (id : Nat)
  /-- The token of a slot is cancelled by itself. -/
  | cancel (id : Nat)
  | close
deriving DecidableEq, Repr

def call (s : Session) : SlotCall → Session
  | .begin => s.begin.2
  | .stop => s.stop.2
  | .drop id => s.finish id
  | .cancel id => s.cancel id
  | .close => s.close

def calls (s : Session) (run : List SlotCall) : Session := run.foldl call s

/-- The numbers that a run of calls hands out, in order. -/
def begun (s : Session) : List SlotCall → List Nat
  | [] => []
  | .begin :: run => s.begin.1 :: begun (s.call .begin) run
  | c :: run => begun (s.call c) run

theorem SlotsInOrder.call {s : Session} (hs : s.SlotsInOrder) (c : SlotCall) : (s.call c).SlotsInOrder := by
  cases c with
  | begin => exact hs.begin
  | stop => exact hs.preempt
  | drop i => exact hs.finish i
  | cancel i => exact hs.cancel i
  | close => exact hs.close

theorem SlotsInOrder.calls {s : Session} (hs : s.SlotsInOrder) (run : List SlotCall) :
    (s.calls run).SlotsInOrder := by
  induction run generalizing s with
  | nil => exact hs
  | cons c run ih => exact ih (hs.call c)

theorem ids_calls (s : Session) (run : List SlotCall) :
    (s.calls run).slots.map (·.id) = s.slots.map (·.id) ++ s.begun run := by
  induction run generalizing s with
  | nil => simp [calls, begun]
  | cons c run ih =>
    have h : (s.call c).slots.map (·.id) ++ (s.call c).begun run = s.slots.map (·.id) ++ s.begun (c :: run) := by
      cases c with
      | begin => simp [call, begun]
      | stop => simp [call, begun, stop]
      | drop i => simp [call, begun]
      | cancel i => simp [call, begun]
      | close => simp [call, begun]
    exact (ih _).trans h

theorem revoked_calls {s : Session} {run : List SlotCall} (hs : s.revoked = s.closed)
    (h : s.revoked = true ∨ .close ∈ run) : (s.calls run).revoked = true := by
  induction run generalizing s with
  | nil => simpa [calls] using h
  | cons c run ih =>
    cases c with
    | close =>
      have hclose : s.close.revoked = true := by
        cases hc : s.closed with
        | true => rw [close_of_closed hc, hs, hc]
        | false => rw [close_of_open hc]
      exact ih (hclose.trans s.closed_close.symm) (.inl hclose)
    | _ =>
      refine ih (by simpa [call, stop] using hs) ?_
      simpa [call, stop] using h

/-- **The handle and the tokens behind any run of calls.** An installed handle names the playback begun last, whose slot
is held, and at most one held slot is live. Dropping a slot takes only its own handle away. Behind a stop no held slot
is live, behind a close none at all. -/
theorem handle_and_tokens_of_calls (config : Config) (name : String) (run : List SlotCall) :
    let s := (Session.new config name).calls run
    let ids := (Session.new config name).begun run
    ids.Pairwise (· < ·) ∧
    (∀ i, s.active = some i → ids.getLast? = some i ∧ s.isHeld i = true) ∧
    (∀ i, s.isHeld i = true → s.active ≠ some i → s.isCancelled i = true) ∧
    (∀ i j, s.isHeld i = true → s.isHeld j = true → s.isCancelled i = false → s.isCancelled j = false →
      i = j) ∧
    (∀ i, (s.finish i).active = (if s.active = some i then none else s.active) ∧
      ∀ j, (s.finish i).isCancelled j = s.isCancelled j) ∧
    (s.stop.1 = true ↔ ∃ i, s.active = some i) ∧
    (∀ i, s.stop.2.isHeld i = true → s.stop.2.isCancelled i = true) ∧
    (∀ i j, j ≠ i → (s.cancel i).isCancelled j = s.isCancelled j) ∧
    (.close ∈ run → ∀ i ∈ ids, s.isCancelled i = true) := by
  intro s ids
  have hs : s.SlotsInOrder := (SlotsInOrder.new config name).calls run
  have hids : List.range' 1 s.slots.length = ids := by
    rw [← hs.ids]
    exact (ids_calls _ run).trans (List.nil_append _)
  refine ⟨?_, ?_, hs.others, fun i j => hs.eq_of_live, ?_, ?_, ?_, ?_, ?_⟩
  · rw [← hids]
    exact List.pairwise_lt_range'
  · intro i hi
    obtain ⟨rfl, hheld⟩ := hs.active i hi
    have hpos : 1 ≤ s.slots.length := (hs.le_length (mem_ids_of_isHeld hheld)).1
    refine ⟨?_, hheld⟩
    rw [← hids, List.getLast?_range', if_neg (by omega)]
    congr 1
    omega
  · exact fun i => ⟨s.active_finish i, s.isCancelled_finish i⟩
  · exact Option.isSome_iff_exists
  · intro i hi
    exact hs.isCancelled_preempt ((s.isHeld_preempt i).symm.trans hi)
  · exact fun i j h => s.isCancelled_cancel_of_ne h
  · intro hclose i _
    exact isCancelled_of_revoked (revoked_calls rfl (.inr hclose)) i

/-- A second playback preempts the first, whose slot is dropped late; it is stopped, a third is begun before
the second slot is dropped, the session is closed and a fourth begun behind that. -/
theorem handle_and_tokens_of_late_drops :
    let run : List SlotCall := [.begin, .begin, .drop 1, .stop, .begin, .drop 2, .close, .begin]
    let s := (Session.new {} "room").calls run
    (Session.new {} "room").begun run = [1, 2, 3, 4] ∧ s.active = some 4 ∧
    SlotCall.close ∈ run ∧ ∀ i ∈ [1, 2, 3, 4], s.isCancelled i = true :=
  ⟨by decide, by decide, by decide,
    (handle_and_tokens_of_calls {} "room"
      [.begin, .begin, .drop 1, .stop, .begin, .drop 2, .close, .begin]).2.2.2.2.2.2.2.2 (by decide)⟩

end Playout.Session
