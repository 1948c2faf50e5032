import Mathlib
import Playout.Proofs.Pcm.Resampler

/-!
# A resampler stays in phase

Between two pushes a resampler keeps at most one sample, and its position lies in front of 1, or of one step less 1
where that is further on (`Bounded`): where a long step leads past the samples at hand, all of them are dropped, and
the position counts from the first sample that is yet to come. The samples dropped and the position together are as
many steps as there are outputs.
-/

namespace Playout.Pcm.Resampler

variable {r : Resampler ℚ} {input : List Sample} {count : ℕ}

/-- There is at most one sample to keep, and the position is at most one step beyond the last place read. -/
structure Bounded (r : Resampler ℚ) : Prop where
  pending_le : r.pending.length ≤ 1
  position_lt : r.position < max 1 (r.step - 1)

theorem bounded_new (source target : UInt32) : (new source target : Resampler ℚ).Bounded := by
  have hposition : (new source target : Resampler ℚ).position = 0 := ofIndex_eq 0
  refine ⟨Nat.zero_le 1, ?_⟩
  rw [hposition]
  exact lt_max_of_lt_left one_pos

theorem loop_stop (hsource : 0 < r.source) (htarget : 0 < r.target) (hpos : 0 ≤ r.position) (h : r.Bounded)
    (chunk : List Sample) :
    0 ≤ (r.loop chunk).2 ∧ (r.pending ++ chunk).length ≤ ⌊(r.loop chunk).2⌋₊ + 1 ∧
      (r.loop chunk).2 - (r.pending ++ chunk).length < max 1 (r.step - 1) := by
  have hstep := step_pos hsource htarget
  have hwhole : r.pending ++ chunk = (r.pending ++ chunk).drop 0 := rfl
  obtain ⟨more, hloop, hreach, hend⟩ := loop_eq hsource htarget hpos hwhole rfl
  rw [Nat.cast_zero, add_zero] at hreach hend
  have hstop : (r.loop chunk).2 = r.position + more * r.step := congrArg Prod.snd hloop
  rw [hstop]
  refine ⟨by positivity, hend, ?_⟩
  cases more with
  | zero =>
    have hlength : (0 : ℚ) ≤ (r.pending ++ chunk).length := Nat.cast_nonneg _
    have hposition := h.position_lt
    push_cast
    linarith
  | succ last =>
    -- the place read last has a sample behind it
    have hlast : r.position + last * r.step < (r.pending ++ chunk).length - 1 := by
      have hread := hreach last (Nat.lt_succ_self last)
      have hplace := (Nat.floor_lt (by positivity)).1 (Nat.lt_sub_of_add_lt hread)
      rwa [Nat.cast_sub (by omega), Nat.cast_one] at hplace
    apply lt_max_of_lt_right
    push_cast
    linarith

theorem push_bounded (hsource : 0 < r.source) (htarget : 0 < r.target) (hpos : 0 ≤ r.position) (h : r.Bounded)
    (chunk : List Sample) : (r.push chunk).2.Bounded := by
  by_cases hshort : (r.pending ++ chunk).length < 2
  · rw [push_of_short hshort]
    exact ⟨Nat.le_of_lt_succ hshort, h.position_lt⟩
  · obtain ⟨hstop, hend, hbeyond⟩ := loop_stop hsource htarget hpos h chunk
    rw [push_of_long hshort]
    refine ⟨?_, ?_⟩
    · rw [List.length_drop]
      omega
    · show (r.loop chunk).2 - (min ⌊(r.loop chunk).2⌋₊ (r.pending ++ chunk).length : ℕ) < max 1 (r.step - 1)
      by_cases hwithin : ⌊(r.loop chunk).2⌋₊ ≤ (r.pending ++ chunk).length
      · rw [min_eq_left hwithin]
        apply lt_max_of_lt_left
        linarith [Nat.lt_floor_add_one (r.loop chunk).2]
      · rw [min_eq_right (by omega)]
        exact hbeyond

theorem pushAll_bounded (hsource : 0 < r.source) (htarget : 0 < r.target) (ht : Tracks r input count) (h : r.Bounded)
    (chunks : List (List Sample)) : (r.pushAll chunks).2.Bounded := by
  induction chunks generalizing r input count with
  | nil => exact h
  | cons chunk chunks ih =>
    obtain ⟨-, hsource', htarget', more, htracks, -⟩ := push_tracks hsource htarget ht chunk
    have hbounded := push_bounded hsource htarget ht.position_nonneg h chunk
    show ((r.push chunk).2.pushAll chunks).2.Bounded
    exact ih (hsource'.symm ▸ hsource) (htarget'.symm ▸ htarget) htracks hbounded

/-- **A resampler stays in phase.** It keeps one sample of the input at most. Its position is not negative, and less
than 1 or than one step less 1. The samples dropped and the position make up the steps of the outputs given. -/
theorem stays_in_phase (source target : UInt32) (hsource : 0 < source) (htarget : 0 < target)
    (chunks : List (List Sample)) {outputs : List (List Sample)} {r : Resampler ℚ}
    (h : (new source target : Resampler ℚ).pushAll chunks = (outputs, r)) :
    r.step = source.toNat / target.toNat ∧ r.pending.length ≤ 1 ∧
    0 ≤ r.position ∧ r.position < max 1 (r.step - 1) ∧
    ∃ dropped : ℕ, r.pending = chunks.flatten.drop dropped ∧ dropped + r.pending.length = chunks.flatten.length ∧
      dropped + r.position = outputs.flatten.length * r.step := by
  obtain ⟨hsource', htarget', more, htracks, hout⟩ := pushAll_tracks hsource htarget (tracks_new source target) chunks
  have hbounded := pushAll_bounded hsource htarget (tracks_new source target) (bounded_new source target) chunks
  rw [h] at hsource' htarget' htracks hout hbounded
  have hstep : r.step = source.toNat / target.toNat := by
    have htarget'' : 0 < r.target := htarget' ▸ htarget
    rw [step_eq htarget'', hsource', htarget']
    rfl
  have hcount : outputs.flatten.length = more := by rw [hout, List.length_map, List.length_range']
  obtain ⟨dropped, hle, hpending, hposition⟩ := htracks.pending_eq
  rw [Nat.zero_add] at hposition
  rw [List.nil_append] at hle hpending
  refine ⟨hstep, hbounded.pending_le, htracks.position_nonneg, hbounded.position_lt, dropped, hpending, ?_, ?_⟩
  · rw [hpending, List.length_drop]
    omega
  · rw [hcount, add_comm]
    exact hposition

theorem stays_in_phase_past_chunk :
    ∃ r, (new 48000 16000 : Resampler ℚ).pushAll [[0, 10, 20, 30, 40]] = ([[0, 30]], r) ∧ r.pending = [] ∧
      r.position < max 1 (r.step - 1) ∧ 5 + r.position = 2 * r.step := by
  have houtputs : ((new 48000 16000 : Resampler ℚ).pushAll [[0, 10, 20, 30, 40]]).1 = [[0, 30]] := by decide +kernel
  have hpending : ((new 48000 16000 : Resampler ℚ).pushAll [[0, 10, 20, 30, 40]]).2.pending = [] := by
    decide +kernel
  generalize hrun : (new 48000 16000 : Resampler ℚ).pushAll [[0, 10, 20, 30, 40]] = run at houtputs hpending ⊢
  obtain ⟨outputs, r⟩ := run
  obtain rfl : outputs = [[0, 30]] := houtputs
  obtain ⟨-, -, -, hposition, dropped, -, hdropped, hphase⟩ :=
    stays_in_phase 48000 16000 (by decide) (by decide) [[0, 10, 20, 30, 40]] hrun
  rw [show r.pending = [] from hpending] at hdropped
  obtain rfl : dropped = 5 := hdropped
  exact ⟨r, rfl, hpending, hposition, hphase⟩

end Playout.Pcm.Resampler
