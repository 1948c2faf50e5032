import Mathlib
import Playout.Proofs.Pacer

/-!
# A punctual pacer does not drift

A wait that is called at most one frame after its frame is due leaves the anchor where it is, and returns when it was
called, or when the timer rings for what is due, if that is later (`Pacer.wait_of_punctual`). So in a run of such waits
the place of each frame is told from the first wait and the samples booked alone, and nothing that is rounded or late
adds up (`Pacer.pacing_does_not_drift`).

Waits that are called one behind the other are such waits when each frame lasts for a millisecond or more: the timer is
late by less than that, so the next wait is called before its own frame is due (`Pacer.asked_of_immediate`).
-/

namespace Playout.Pacer

variable {p : Pacer} {start now samples : Nat}

/-! ## Punctual waits -/

/-- On a schedule that begins at `start`, the wait is called one frame after its frame is due, or earlier. -/
def Wait.Punctual (start : Nat) (w : Wait) : Prop := w.asked ≤ start + w.pacer.scheduled + w.pacer.offset w.samples

theorem wait_of_punctual (hanchor : p.anchor.getD now = start) (h : now ≤ start + p.scheduled + p.offset samples) :
    p.anchorBehind now samples = start ∧ (p.wait now samples).2.anchor = some start ∧
      (p.wait now samples).1 = wake now (start + p.scheduled) := by
  have hstalled : ¬p.Stalled now samples := by
    rw [Stalled, hanchor]
    exact Nat.not_lt.2 h
  have hbehind : p.anchorBehind now samples = start := (anchorBehind_of_not_stalled hstalled).trans hanchor
  refine ⟨hbehind, congrArg some hbehind, ?_⟩
  rw [← hbehind, ← due_eq]
  rfl

/-- In a run of punctual waits the anchor stays where the first one finds it. -/
theorem of_punctual_waits {calls : List (Nat × Nat)} {k : Nat} (hk : k < (p.waits now calls).length)
    (hanchor : ∀ call ∈ calls.head?, p.anchor.getD (now + call.1) = start)
    (h : ∀ w ∈ (p.waits now calls).take (k + 1), w.Punctual start) :
    (p.waits now calls)[k].anchor = start ∧
      (p.waits now calls)[k].returned =
        wake (p.waits now calls)[k].asked (start + (p.waits now calls)[k].pacer.scheduled) := by
  induction calls generalizing p now k with
  | nil => cases hk
  | cons call calls ih =>
    obtain ⟨hbehind, hnext, hreturned⟩ := wait_of_punctual (hanchor call rfl) (h _ List.mem_cons_self)
    cases k with
    | zero => exact ⟨hbehind, hreturned⟩
    | succ k =>
      -- behind the first wait there is an anchor, so the time of the next call does not matter
      refine ih (Nat.lt_of_succ_lt_succ hk) ?_ fun w hmem => h w (List.mem_cons_of_mem _ hmem)
      intro next _
      rw [hnext, Option.getD_some]

/-! ## Waits one behind the other -/

theorem offset_add_le (p : Pacer) (a b : Nat) : p.offset a + p.offset b ≤ p.offset (a + b) := by
  rw [offset, offset, offset, Nat.mul_add]
  exact Nat.div_add_div_le_add_div

theorem wait_le_scheduled (hanchor : p.anchor.getD now = start) (hnow : now ≤ start + p.scheduled)
    (hlasts : 1000 ≤ p.offset samples) : (p.wait now samples).1 ≤ start + (p.wait now samples).2.scheduled := by
  have hpunctual : now ≤ start + p.scheduled + p.offset samples := hnow.trans (Nat.le_add_right _ _)
  obtain ⟨-, -, hreturned⟩ := wait_of_punctual hanchor hpunctual
  have hlate : (p.wait now samples).1 ≤ start + p.scheduled + 999 := by
    rw [hreturned]
    have hwake := wake_le now (start + p.scheduled)
    omega
  have hbooked : p.scheduled + p.offset samples ≤ (p.wait now samples).2.scheduled := p.offset_add_le p.booked samples
  omega

theorem asked_of_immediate {frames : List Nat} (hanchor : p.anchor.getD now = start) (hnow : now ≤ start + p.scheduled)
    (hframes : ∀ n ∈ frames, 1000 ≤ p.offset n) {w : Wait} (hw : w ∈ p.waits now (frames.map (0, ·))) :
    w.asked ≤ start + w.pacer.scheduled := by
  induction frames generalizing p now with
  | nil => cases hw
  | cons n frames ih =>
    rcases List.mem_cons.1 hw with rfl | hw
    · exact hnow
    · have hpunctual : now ≤ start + p.scheduled + p.offset n := hnow.trans (Nat.le_add_right _ _)
      obtain ⟨-, hnext, -⟩ := wait_of_punctual hanchor hpunctual
      have hanchor' : (p.wait now n).2.anchor.getD (p.wait now n).1 = start := by rw [hnext, Option.getD_some]
      have hnow' := wait_le_scheduled hanchor hnow (hframes n List.mem_cons_self)
      exact ih hanchor' hnow' (fun n' hmem => hframes n' (List.mem_cons_of_mem _ hmem)) hw

/-! ## The schedule -/

theorem length_waits (p : Pacer) (now : Nat) (calls : List (Nat × Nat)) :
    (p.waits now calls).length = calls.length := by
  have hlength := congrArg List.length (p.samples_waits now calls)
  rwa [List.length_map, List.length_map] at hlength

theorem scheduled_of_mem_waits {calls : List (Nat × Nat)} {w : Wait} (h : w ∈ p.waits now calls) :
    w.pacer.scheduled = p.offset w.pacer.booked := by
  rw [scheduled, offset_of_rate (of_mem_waits h).1]

theorem place_of_punctual {rate : UInt32} {calls : List (Nat × Nat)} {k : Nat}
    (hk : k < ((new rate).waits start calls).length) (hfirst : ∀ call ∈ calls.head?, call.1 = 0)
    (h : ∀ w ∈ ((new rate).waits start calls).take (k + 1), w.Punctual start) :
    ((new rate).waits start calls)[k].pacer.booked = ((calls.map Prod.snd).take k).sum ∧
      ((new rate).waits start calls)[k].anchor = start ∧
      ((new rate).waits start calls)[k].returned =
        wake ((new rate).waits start calls)[k].asked
          (start + (new rate).offset ((calls.map Prod.snd).take k).sum) := by
  have hbooked : ((new rate).waits start calls)[k].pacer.booked = ((calls.map Prod.snd).take k).sum := by
    rw [booked_waits hk, List.map_take]
    exact Nat.zero_add _
  have hanchor : ∀ call ∈ calls.head?, (new rate).anchor.getD (start + call.1) = start := by
    intro call hcall
    rw [hfirst call hcall]
    rfl
  obtain ⟨hanchor, hreturned⟩ := of_punctual_waits hk hanchor h
  rw [scheduled_of_mem_waits (List.getElem_mem hk), hbooked] at hreturned
  exact ⟨hbooked, hanchor, hreturned⟩

/-- **Pacing does not drift.** As long as every wait is called by the time its frame is due from the first one on, the
anchor stays, and the wait returns when it was called or on the first whole millisecond at which its frame is due. -/
theorem pacing_does_not_drift (rate : UInt32) (start : Nat) :
    let off := fun samples => samples * 1000000 / max rate.toNat 1
    (∀ (samples : Nat) (calls : List (Nat × Nat)),
      let frames := samples :: calls.map Prod.snd
      let run := (new rate).waits start ((0, samples) :: calls)
      run.map (·.samples) = frames ∧
      ∀ k, (hk : k < run.length) →
        (∀ w ∈ run.take (k + 1), w.asked ≤ start + off w.pacer.booked + off w.samples) →
        run[k].pacer.booked = (frames.take k).sum ∧
        run[k].anchor = start ∧
        run[k].returned = max run[k].asked (wholeMillisecond (start + off (frames.take k).sum))) ∧
    ∀ frames : List Nat, (∀ n ∈ frames, 1000 ≤ off n) →
      ((new rate).waits start (frames.map (0, ·))).map (·.returned) =
        (List.range frames.length).map fun k => wholeMillisecond (start + off (frames.take k).sum) := by
  intro off
  have hoff : (new rate).offset = off := by
    funext samples
    rw [offset, Nat.mul_comm]
    rfl
  refine ⟨?_, ?_⟩
  · intro samples calls frames run
    refine ⟨samples_waits _ _ _, ?_⟩
    intro k hk hpunctual
    have hwaits : ∀ w ∈ run.take (k + 1), w.Punctual start := by
      intro w hmem
      have hasked := hpunctual w hmem
      rw [← hoff, ← scheduled_of_mem_waits (List.mem_of_mem_take hmem),
        ← offset_of_rate (of_mem_waits (List.mem_of_mem_take hmem)).1] at hasked
      exact hasked
    have hplace := place_of_punctual hk (by simp) hwaits
    rwa [hoff] at hplace
  · intro frames hframes
    have hasked : ∀ w ∈ (new rate).waits start (frames.map (0, ·)), w.asked ≤ start + w.pacer.scheduled := by
      intro w hmem
      exact asked_of_immediate rfl (Nat.le_add_right _ _) (by rwa [hoff]) hmem
    have hframes : (frames.map fun n => (0, n)).map Prod.snd = frames := by simp
    refine List.ext_getElem (by simp [length_waits]) ?_
    intro k hk _
    rw [List.length_map] at hk
    obtain ⟨hbooked, -, hreturned⟩ := place_of_punctual hk (by cases frames <;> simp) fun w hmem =>
      (hasked w (List.mem_of_mem_take hmem)).trans (Nat.le_add_right _ _)
    have hdue := hasked _ (List.getElem_mem hk)
    rw [scheduled_of_mem_waits (List.getElem_mem hk), hbooked, hframes, hoff] at hdue
    rw [hframes, hoff, wake, max_eq_right (hdue.trans (le_wholeMillisecond _))] at hreturned
    rw [List.getElem_map, List.getElem_map, List.getElem_range, hreturned]

theorem pacing_does_not_drift_of_late_frame :
    let run := (new 16000).waits 7000 [(0, 160), (15000, 160), (0, 160)]
    run.Forall (fun w => w.asked ≤ 7000 + w.pacer.booked * 1000000 / 16000 + w.samples * 1000000 / 16000) ∧
      run[2].anchor = 7000 ∧ run[2].returned = 27000 ∧
      1000 ≤ 160 * 1000000 / 16000 ∧
      ((new 16000).waits 7000 [(0, 160), (0, 160), (0, 160)]).map (·.returned) = [7000, 17000, 27000] := by
  intro run
  have hpunctual : ∀ w ∈ run, w.asked ≤ 7000 + w.pacer.booked * 1000000 / 16000 + w.samples * 1000000 / 16000 :=
    List.forall_iff_forall_mem.1 (by decide +kernel)
  obtain ⟨hlate, himmediate⟩ := pacing_does_not_drift 16000 7000
  obtain ⟨-, hplace⟩ := hlate 160 [(15000, 160), (0, 160)]
  obtain ⟨-, hanchor, hreturned⟩ := hplace 2 (by decide) fun w hmem => hpunctual w (List.mem_of_mem_take hmem)
  refine ⟨List.forall_iff_forall_mem.2 hpunctual, hanchor, hreturned.trans (by decide +kernel), by decide, ?_⟩
  exact (himmediate [160, 160, 160] (by decide)).trans (by decide +kernel)

end Playout.Pacer
