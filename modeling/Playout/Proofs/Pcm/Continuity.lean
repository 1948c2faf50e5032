import Mathlib
import Playout.Proofs.Pcm.Resampler

/-!
# Edges of chunks do not click

The curve through samples that change by at most `limit` from one to the next is nowhere steeper than `limit`
(`abs_curve_sub_le`): two places are joined by what is left of the first gap, by whole gaps, and by the part of the last
one. Outputs are the curve at equal steps, cut toward zero, which adds less than one to a difference. And the curve
stays between the two samples around a place (`curve_between`), so there is nothing for the limits of a sample to do.
-/

namespace Playout.Pcm

/-- Each sample is at most `limit` away from the one before it. -/
def Gentle (limit : ℚ) (samples : List Sample) : Prop :=
  samples.IsChain fun s t => |(t.toInt - s.toInt : ℚ)| ≤ limit

/-- The amplitude of the sample with this index. -/
def level (samples : List Sample) (n : ℕ) : ℚ := (samples.getD n 0).toInt

section Curve

variable {samples : List Sample} {limit x y : ℚ} {n m : ℕ}

theorem curve_eq (samples : List Sample) (x : ℚ) :
    curve samples x = level samples ⌊x⌋₊ + (level samples (⌊x⌋₊ + 1) - level samples ⌊x⌋₊) * (x - ⌊x⌋₊) := rfl

theorem level_of_lt (h : n < samples.length) : level samples n = samples[n].toInt := by
  rw [level, List.getD_eq_getElem _ _ h]

/-! ## One gap -/

theorem Gentle.abs_level_succ_sub_le (h : Gentle limit samples) (hn : n + 1 < samples.length) :
    |level samples (n + 1) - level samples n| ≤ limit := by
  rw [level_of_lt hn, level_of_lt (Nat.lt_of_succ_lt hn)]
  exact List.isChain_iff_getElem.1 h n hn

theorem abs_mul_le {slope width : ℚ} (hslope : |slope| ≤ limit) (hwidth : 0 ≤ width) :
    |slope * width| ≤ limit * width := by
  rw [abs_mul, abs_of_nonneg hwidth]
  exact mul_le_mul_of_nonneg_right hslope hwidth

theorem Gentle.abs_curve_sub_level_le (h : Gentle limit samples) (hx : 0 ≤ x) (hlt : ⌊x⌋₊ + 1 < samples.length) :
    |curve samples x - level samples ⌊x⌋₊| ≤ limit * (x - ⌊x⌋₊) := by
  rw [curve_eq, add_sub_cancel_left]
  exact abs_mul_le (h.abs_level_succ_sub_le hlt) (sub_nonneg.2 (Nat.floor_le hx))

theorem Gentle.abs_level_sub_curve_le (h : Gentle limit samples) (hlt : ⌊x⌋₊ + 1 < samples.length) :
    |level samples (⌊x⌋₊ + 1) - curve samples x| ≤ limit * (⌊x⌋₊ + 1 - x) := by
  have hrest : level samples (⌊x⌋₊ + 1) - curve samples x =
      (level samples (⌊x⌋₊ + 1) - level samples ⌊x⌋₊) * (⌊x⌋₊ + 1 - x) := by
    rw [curve_eq]
    ring
  rw [hrest]
  exact abs_mul_le (h.abs_level_succ_sub_le hlt) (sub_nonneg.2 (Nat.lt_floor_add_one x).le)

theorem Gentle.abs_curve_sub_le_of_floor_eq (h : Gentle limit samples) (hle : x ≤ y) (hfloor : ⌊x⌋₊ = ⌊y⌋₊)
    (hlt : ⌊y⌋₊ + 1 < samples.length) : |curve samples y - curve samples x| ≤ limit * (y - x) := by
  have hpart : curve samples y - curve samples x =
      (level samples (⌊y⌋₊ + 1) - level samples ⌊y⌋₊) * (y - x) := by
    rw [curve_eq, curve_eq, hfloor]
    ring
  rw [hpart]
  exact abs_mul_le (h.abs_level_succ_sub_le hlt) (sub_nonneg.2 hle)

/-! ## The whole run -/

theorem Gentle.abs_level_sub_le (h : Gentle limit samples) (hle : n ≤ m) (hm : m < samples.length) :
    |level samples m - level samples n| ≤ limit * (m - n) := by
  induction m, hle using Nat.le_induction with
  | base => simp
  | succ m _ ih =>
    have hgap := h.abs_level_succ_sub_le hm
    have hbefore := ih (Nat.lt_of_succ_lt hm)
    calc |level samples (m + 1) - level samples n|
        ≤ |level samples (m + 1) - level samples m| + |level samples m - level samples n| := abs_sub_le _ _ _
      _ ≤ limit + limit * (m - n) := add_le_add hgap hbefore
      _ = limit * ((m + 1 : ℕ) - n) := by
        push_cast
        ring

theorem Gentle.abs_curve_sub_le (h : Gentle limit samples) (hx : 0 ≤ x) (hle : x ≤ y)
    (hlt : ⌊y⌋₊ + 1 < samples.length) : |curve samples y - curve samples x| ≤ limit * (y - x) := by
  rcases (Nat.floor_mono hle).eq_or_lt with hfloor | hfloor
  -- a gap that holds both places is not crossed to its end
  · exact h.abs_curve_sub_le_of_floor_eq hle hfloor hlt
  · have hfirst := h.abs_level_sub_curve_le (x := x) (by omega)
    have hmiddle := h.abs_level_sub_le (Nat.succ_le_of_lt hfloor) (Nat.lt_of_succ_lt hlt)
    have hlast := h.abs_curve_sub_level_le (hx.trans hle) hlt
    calc |curve samples y - curve samples x|
        ≤ |curve samples y - level samples ⌊y⌋₊| + |level samples ⌊y⌋₊ - curve samples x| := abs_sub_le _ _ _
      _ ≤ |curve samples y - level samples ⌊y⌋₊| + (|level samples ⌊y⌋₊ - level samples (⌊x⌋₊ + 1)| +
            |level samples (⌊x⌋₊ + 1) - curve samples x|) := by
        gcongr
        exact abs_sub_le _ _ _
      _ ≤ limit * (y - ⌊y⌋₊) + (limit * (⌊y⌋₊ - (⌊x⌋₊ + 1 : ℕ)) + limit * (⌊x⌋₊ + 1 - x)) := by gcongr
      _ = limit * (y - x) := by
        push_cast
        ring

theorem curve_between (samples : List Sample) (hx : 0 ≤ x) :
    min (level samples ⌊x⌋₊) (level samples (⌊x⌋₊ + 1)) ≤ curve samples x ∧
    curve samples x ≤ max (level samples ⌊x⌋₊) (level samples (⌊x⌋₊ + 1)) := by
  have hfraction : 0 ≤ x - ⌊x⌋₊ := sub_nonneg.2 (Nat.floor_le hx)
  have hrest : 0 ≤ 1 - (x - ⌊x⌋₊) := by linarith [Nat.lt_floor_add_one x]
  have hmix : curve samples x =
      (1 - (x - ⌊x⌋₊)) * level samples ⌊x⌋₊ + (x - ⌊x⌋₊) * level samples (⌊x⌋₊ + 1) := by
    rw [curve_eq]
    ring
  rw [hmix]
  constructor
  · have hleft := mul_le_mul_of_nonneg_left (min_le_left (level samples ⌊x⌋₊) (level samples (⌊x⌋₊ + 1))) hrest
    have hright := mul_le_mul_of_nonneg_left (min_le_right (level samples ⌊x⌋₊) (level samples (⌊x⌋₊ + 1))) hfraction
    linarith
  · have hleft := mul_le_mul_of_nonneg_left (le_max_left (level samples ⌊x⌋₊) (level samples (⌊x⌋₊ + 1))) hrest
    have hright := mul_le_mul_of_nonneg_left (le_max_right (level samples ⌊x⌋₊) (level samples (⌊x⌋₊ + 1))) hfraction
    linarith

end Curve

namespace Resampler

def outputs (source target : UInt32) (chunks : List (List Sample)) : List Sample :=
  ((new source target : Resampler ℚ).pushAll chunks).1.flatten

variable {source target : UInt32} {chunks : List (List Sample)} {limit : ℚ} {k : ℕ}

theorem place_nonneg (source target : UInt32) (k : ℕ) : 0 ≤ place source target k := by
  rw [place]
  positivity

theorem place_succ (source target : UInt32) (k : ℕ) :
    place source target (k + 1) - place source target k = source.toNat / target.toNat := by
  rw [place, place]
  push_cast
  ring

theorem length_outputs (hsource : 0 < source) (htarget : 0 < target) (chunks : List (List Sample)) :
    (outputs source target chunks).length = outputCount source target chunks.flatten.length := by
  rw [outputs, pushAll_eq hsource htarget, List.length_map, List.length_range]

theorem place_lt (hsource : 0 < source) (htarget : 0 < target) (hk : k < (outputs source target chunks).length) :
    ⌊place source target k⌋₊ + 1 < chunks.flatten.length := by
  rwa [length_outputs hsource htarget, lt_outputCount hsource htarget] at hk

theorem getElem_outputs (hsource : 0 < source) (htarget : 0 < target) (hk : k < (outputs source target chunks).length) :
    (outputs source target chunks)[k] = reading chunks.flatten (place source target k) := by
  simp only [outputs, pushAll_eq hsource htarget, List.getElem_map, List.getElem_range]

theorem toInt_getElem_outputs (hsource : 0 < source) (htarget : 0 < target)
    (hk : k < (outputs source target chunks).length) :
    (outputs source target chunks)[k].toInt = cut (curve chunks.flatten (place source target k)) := by
  rw [getElem_outputs hsource htarget hk, toInt_reading _ (place_nonneg source target k)]

/-- An output lies between the two samples it is read from, and so does the value before its fraction is cut: the limits
of a sample never show. -/
theorem exists_around_output (hsource : 0 < source) (htarget : 0 < target)
    (hk : k < (outputs source target chunks).length) : ∃ left right fraction,
      chunks.flatten[⌊place source target k⌋₊]? = some left ∧
      chunks.flatten[⌊place source target k⌋₊ + 1]? = some right ∧
      fraction = place source target k - ⌊place source target k⌋₊ ∧
      (outputs source target chunks)[k] = ReadPosition.between left right fraction ∧
      (outputs source target chunks)[k].toInt = cut (left.toInt + (right.toInt - left.toInt) * fraction) ∧
      (min left.toInt right.toInt ≤ (left.toInt + (right.toInt - left.toInt) * fraction : ℚ) ∧
        (left.toInt + (right.toInt - left.toInt) * fraction : ℚ) ≤ max left.toInt right.toInt) ∧
      min left.toInt right.toInt ≤ (outputs source target chunks)[k].toInt ∧
      (outputs source target chunks)[k].toInt ≤ max left.toInt right.toInt := by
  have hlt := place_lt hsource htarget hk
  have hout := toInt_getElem_outputs hsource htarget hk
  have hcurve := curve_eq chunks.flatten (place source target k)
  obtain ⟨hlow, hhigh⟩ := curve_between chunks.flatten (place_nonneg source target k)
  rw [level_of_lt (Nat.lt_of_succ_lt hlt), level_of_lt hlt] at hlow hhigh hcurve
  refine ⟨_, _, _, List.getElem?_eq_getElem (Nat.lt_of_succ_lt hlt), List.getElem?_eq_getElem hlt, rfl, ?_, ?_,
    ⟨?_, ?_⟩, ?_, ?_⟩
  · rw [getElem_outputs hsource htarget hk, reading, List.getD_eq_getElem _ _ (Nat.lt_of_succ_lt hlt),
      List.getD_eq_getElem _ _ hlt]
  · rw [hout, hcurve]
  · rw [← hcurve]
    exact_mod_cast hlow
  · rw [← hcurve]
    exact_mod_cast hhigh
  · rw [hout]
    exact le_cut (by exact_mod_cast hlow)
  · rw [hout]
    exact cut_le (by exact_mod_cast hhigh)

/-- However the input is cut into chunks, no output is far from the one before it, and every output lies between the two
samples that it is read from. -/
theorem outputs_do_not_jump (source target : UInt32) (hsource : 0 < source) (htarget : 0 < target)
    (chunks : List (List Sample)) (limit : ℚ) (hlimit : Gentle limit chunks.flatten) :
    ((outputs source target chunks).IsChain fun s t =>
      |(t.toInt - s.toInt : ℚ)| < limit * source.toNat / target.toNat + 1) ∧
    ∀ k (hk : k < (outputs source target chunks).length), ∃ left right fraction,
      chunks.flatten[⌊place source target k⌋₊]? = some left ∧
      chunks.flatten[⌊place source target k⌋₊ + 1]? = some right ∧
      fraction = place source target k - ⌊place source target k⌋₊ ∧
      (outputs source target chunks)[k] = ReadPosition.between left right fraction ∧
      (outputs source target chunks)[k].toInt = cut (left.toInt + (right.toInt - left.toInt) * fraction) ∧
      (min left.toInt right.toInt ≤ (left.toInt + (right.toInt - left.toInt) * fraction : ℚ) ∧
        (left.toInt + (right.toInt - left.toInt) * fraction : ℚ) ≤ max left.toInt right.toInt) ∧
      min left.toInt right.toInt ≤ (outputs source target chunks)[k].toInt ∧
      (outputs source target chunks)[k].toInt ≤ max left.toInt right.toInt := by
  refine ⟨List.isChain_iff_getElem.2 fun k hk => ?_, fun k hk => exists_around_output hsource htarget hk⟩
  have hplace : place source target k ≤ place source target (k + 1) := by
    have hstep : (0 : ℚ) ≤ source.toNat / target.toNat := by positivity
    linarith [place_succ source target k]
  have hcurve := hlimit.abs_curve_sub_le (place_nonneg source target k) hplace (place_lt hsource htarget hk)
  rw [place_succ, ← mul_div_assoc] at hcurve
  rw [toInt_getElem_outputs hsource htarget hk, toInt_getElem_outputs hsource htarget (Nat.lt_of_succ_lt hk)]
  exact (abs_cut_sub_cut_lt _ _).trans_le (add_le_add_left hcurve 1)

theorem outputs_do_not_jump_over_edges :
    Gentle 1000 [0, 1000, 2000, 1500] ∧ (outputs 8000 16000 [[0, 1000], [], [2000, 1500]]).length = 6 ∧
    (outputs 8000 16000 [[0, 1000], [], [2000, 1500]]).IsChain fun s t => |(t.toInt - s.toInt : ℚ)| < 501 := by
  have hgentle : Gentle 1000 [0, 1000, 2000, 1500] := by
    unfold Gentle
    decide +kernel
  have hsource : (8000 : UInt32).toNat = 8000 := rfl
  have htarget : (16000 : UInt32).toNat = 16000 := rfl
  have hcount : outputCount 8000 16000 4 = 6 := by
    rw [outputCount, if_neg (by decide), hsource, htarget]
    norm_num
  have hbound : (1000 : ℚ) * (8000 : UInt32).toNat / (16000 : UInt32).toNat + 1 = 501 := by
    rw [hsource, htarget]
    norm_num
  refine ⟨hgentle, (length_outputs (by decide) (by decide) _).trans hcount, ?_⟩
  rw [← hbound]
  exact (outputs_do_not_jump 8000 16000 (by decide) (by decide) [[0, 1000], [], [2000, 1500]] 1000 hgentle).1

end Resampler

end Playout.Pcm
