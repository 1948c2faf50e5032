import Mathlib
import Playout.Pacer

/-!
# A pacer never releases a burst

Each wait returns close to its place in the schedule: not before the anchor and the time of the samples booked before
it, and at most one frame, or what a sleep takes to reach a whole millisecond, behind that (`Pacer.wait_between`). The
anchor only moves forward (`Pacer.le_anchor_wait`), since a wait moves it only where it has fallen behind. So two waits
of a run return as far apart as the samples booked from one to the other last, less what the first one was behind
(`Pacer.returns_follow_schedule`), whatever the clock did between them.

Samples and times are natural numbers, so nothing here holds only because a product wrapped.
-/

namespace Playout.Pacer

variable {p : Pacer} {now samples : Nat}

/-! ## Sleeping -/

theorem le_wholeMillisecond (time : Nat) : time ≤ wholeMillisecond time := by
  unfold wholeMillisecond
  omega

theorem wholeMillisecond_le (time : Nat) : wholeMillisecond time ≤ time + 999 := by
  unfold wholeMillisecond
  omega

theorem le_wake (now due : Nat) : due ≤ wake now due :=
  (le_wholeMillisecond due).trans (Nat.le_max_right _ _)

theorem wake_le (now due : Nat) : wake now due ≤ max now (due + 999) :=
  max_le_max le_rfl (wholeMillisecond_le due)

/-! ## One wait -/

/-- A frame of `samples` samples that asks at `now` is overdue by more than its own length. -/
def Stalled (p : Pacer) (now samples : Nat) : Prop := p.anchor.getD now + p.scheduled + p.offset samples < now

def anchorBehind (p : Pacer) (now samples : Nat) : Nat := (p.due now samples).1

theorem booked_wait (p : Pacer) (now samples : Nat) : (p.wait now samples).2.booked = p.booked + samples := rfl

theorem offset_of_rate {q : Pacer} (h : q.rate = p.rate) : q.offset = p.offset := by
  funext samples
  rw [offset, offset, h]

theorem anchorBehind_of_stalled (h : p.Stalled now samples) : p.anchorBehind now samples + p.scheduled = now := by
  unfold Stalled at h
  have hbehind : p.anchorBehind now samples = now - p.scheduled := by
    rw [anchorBehind, due]
    exact congrArg Prod.fst (if_pos h)
  omega

theorem anchorBehind_of_not_stalled (h : ¬p.Stalled now samples) : p.anchorBehind now samples = p.anchor.getD now := by
  rw [anchorBehind, due]
  exact congrArg Prod.fst (if_neg h)

theorem due_eq (p : Pacer) (now samples : Nat) : (p.due now samples).2 = p.anchorBehind now samples + p.scheduled := by
  by_cases h : p.Stalled now samples
  · rw [anchorBehind_of_stalled h, due]
    exact congrArg Prod.snd (if_pos h)
  · rw [anchorBehind_of_not_stalled h, due]
    exact congrArg Prod.snd (if_neg h)

theorem le_anchor_wait {start : Nat} (h : p.anchor = some start) : start ≤ p.anchorBehind now samples := by
  by_cases hstalled : p.Stalled now samples
  · have hbehind := anchorBehind_of_stalled hstalled
    rw [Stalled, h, Option.getD_some] at hstalled
    omega
  · rw [anchorBehind_of_not_stalled hstalled, h, Option.getD_some]

/-- A wait returns when its frame is due or later, but not by more than the slack there is. -/
theorem wait_between (p : Pacer) (now samples : Nat) :
    p.anchorBehind now samples + p.scheduled ≤ (p.wait now samples).1 ∧
      (p.wait now samples).1 ≤ p.anchorBehind now samples + p.scheduled + max (p.offset samples) 999 := by
  have hwait : (p.wait now samples).1 = wake now (p.anchorBehind now samples + p.scheduled) := by
    rw [← due_eq]
    rfl
  have hlate : now ≤ p.anchorBehind now samples + p.scheduled + p.offset samples := by
    by_cases h : p.Stalled now samples
    · have hbehind := anchorBehind_of_stalled h
      omega
    · rw [anchorBehind_of_not_stalled h]
      exact Nat.not_lt.1 h
  have hwake := wake_le now (p.anchorBehind now samples + p.scheduled)
  rw [hwait]
  exact ⟨le_wake _ _, by omega⟩

/-! ## Runs of waits -/

/-- A wait of a run: the pacer that was asked, when, for how many samples, and when the wait returned. -/
structure Wait where
  pacer : Pacer
  asked : Nat
  samples : Nat
  returned : Nat

def Wait.anchor (w : Wait) : Nat := w.pacer.anchorBehind w.asked w.samples

/-- The waits of a run that begins at `now`. Each call is for a number of samples, and comes some time after the wait
before it has returned. -/
def waits (p : Pacer) (now : Nat) : List (Nat × Nat) → List Wait
  | [] => []
  | (elapsed, samples) :: calls =>
    let wait := p.wait (now + elapsed) samples
    ⟨p, now + elapsed, samples, wait.1⟩ :: waits wait.2 wait.1 calls

theorem of_mem_waits {calls : List (Nat × Nat)} {w : Wait} (h : w ∈ p.waits now calls) :
    w.pacer.rate = p.rate ∧ (∀ start, p.anchor = some start → start ≤ w.anchor) ∧
      w.returned = (w.pacer.wait w.asked w.samples).1 := by
  induction calls generalizing p now with
  | nil => cases h
  | cons call calls ih =>
    rcases List.mem_cons.1 h with rfl | h
    · exact ⟨rfl, fun start hstart => le_anchor_wait hstart, rfl⟩
    · obtain ⟨hrate, hanchor, hreturned⟩ := ih h
      refine ⟨hrate, ?_, hreturned⟩
      intro start heq
      exact (le_anchor_wait heq).trans (hanchor _ rfl)

theorem pairwise_anchor (p : Pacer) (now : Nat) (calls : List (Nat × Nat)) :
    (p.waits now calls).Pairwise fun w w' => w.anchor ≤ w'.anchor := by
  induction calls generalizing p now with
  | nil => exact .nil
  | cons call calls ih =>
    refine .cons ?_ (ih _ _)
    intro w' hmem
    exact (of_mem_waits hmem).2.1 _ rfl

theorem samples_waits (p : Pacer) (now : Nat) (calls : List (Nat × Nat)) :
    (p.waits now calls).map (·.samples) = calls.map Prod.snd := by
  induction calls generalizing p now with
  | nil => rfl
  | cons call calls ih => rw [waits, List.map_cons, ih, List.map_cons]

theorem booked_waits {calls : List (Nat × Nat)} {i : Nat} (h : i < (p.waits now calls).length) :
    (p.waits now calls)[i].pacer.booked = p.booked + ((calls.take i).map Prod.snd).sum := by
  induction calls generalizing p now i with
  | nil => cases h
  | cons call calls ih =>
    cases i with
    | zero => rfl
    | succ i =>
      refine (ih (Nat.lt_of_succ_lt_succ h)).trans ?_
      rw [booked_wait, List.take_succ_cons, List.map_cons, List.sum_cons, Nat.add_assoc]

/-- **Waits return as the schedule has it.** No wait returns before the anchor and what the booked samples last, and the
anchor never moves backwards. Between two returns there is at least the time of the samples booked between them, less
one frame or 999 microseconds. -/
theorem returns_follow_schedule (rate : UInt32) (now : Nat) (calls : List (Nat × Nat)) :
    let off := (new rate).offset
    let run := (new rate).waits now calls
    run.map (·.samples) = calls.map Prod.snd ∧
    (∀ i, (h : i < run.length) → run[i].pacer.booked = ((calls.take i).map Prod.snd).sum) ∧
    (∀ w ∈ run, w.anchor + off w.pacer.booked ≤ w.returned ∧
      (w.pacer.Stalled w.asked w.samples → w.anchor + off w.pacer.booked = w.asked)) ∧
    (run.Pairwise fun w w' => w.anchor ≤ w'.anchor) ∧
    run.Pairwise fun w w' =>
      (off w'.pacer.booked : Int) - off w.pacer.booked - max (off w.samples) 999 ≤ w'.returned - w.returned := by
  intro off run
  have hplace : ∀ w ∈ run, w.anchor + off w.pacer.booked ≤ w.returned ∧
      w.returned ≤ w.anchor + off w.pacer.booked + max (off w.samples) 999 := by
    intro w hmem
    obtain ⟨hrate, -, hreturned⟩ := of_mem_waits hmem
    have hbetween := w.pacer.wait_between w.asked w.samples
    rw [← hreturned, scheduled, offset_of_rate hrate] at hbetween
    exact hbetween
  refine ⟨samples_waits _ _ _, ?_, ?_, pairwise_anchor _ _ _, ?_⟩
  · intro i h
    exact (booked_waits h).trans (Nat.zero_add _)
  · intro w hmem
    refine ⟨(hplace w hmem).1, ?_⟩
    intro hstalled
    have hbehind := anchorBehind_of_stalled hstalled
    rwa [scheduled, offset_of_rate (of_mem_waits hmem).1] at hbehind
  · refine (pairwise_anchor _ _ _).imp_of_mem ?_
    intro w w' hmem hmem' hanchor
    -- the earlier one is late by its slack at most, and the later one not early, on an anchor that is no less
    have hfirst := (hplace w hmem).2
    have hsecond := (hplace w' hmem').1
    omega

/-- Behind a stall of two seconds one frame goes out at once, and the next ones ten milliseconds apart. -/
example : ((new 16000).waits 0 [(0, 160), (2000000, 160), (0, 160), (0, 160)]).map (·.returned) =
    [0, 2000000, 2010000, 2020000] := by decide

end Playout.Pacer
