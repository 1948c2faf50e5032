import Mathlib
import Playout.Pcm.Conditioner
import Playout.Proofs.Pcm.Continuity
import Playout.Proofs.Pcm.Downmix
import Playout.Proofs.Pcm.Gain

/-!
# The tail of a stream does not see the cuts

Averaging and scaling work frame by frame and sample by sample, and the resampler carries what it needs from chunk to
chunk. So audio that is cut between sample frames comes out of the three stages as if it had never been cut
(`outputs_eq`). A stream that has the target rate passes by the resampler, which would give the same samples but the
last. A target rate of zero is taken as one.
-/

namespace Playout.Pcm

/-! ## A target rate of zero -/

namespace Resampler

theorem max_one_pos (rate : UInt32) : 0 < max rate 1 := by
  show 0 < (if rate ≤ 1 then 1 else rate)
  split
  · decide
  · next h => exact UInt32.lt_trans (by decide) (UInt32.not_le.1 h)

/-- The resampler with the target rate that its step is made of. -/
def retargeted (r : Resampler ℚ) : Resampler ℚ := { r with target := max r.target 1 }

theorem step_retargeted (r : Resampler ℚ) : r.retargeted.step = r.step := by
  have hstep (r : Resampler ℚ) : r.step = mkRat r.source.toNat (max r.target 1).toNat := rfl
  rw [hstep, hstep, retargeted, max_one (max_one_pos r.target)]

theorem outputBound_retargeted (r : Resampler ℚ) (length : ℕ) :
    r.retargeted.outputBound length = r.outputBound length := by
  rw [outputBound, outputBound, retargeted, max_one (max_one_pos r.target)]

theorem push_retargeted (r : Resampler ℚ) (chunk : List Sample) :
    r.retargeted.push chunk = ((r.push chunk).1, (r.push chunk).2.retargeted) := by
  have hpending : r.retargeted.pending = r.pending := rfl
  have hposition : r.retargeted.position = r.position := rfl
  rw [push, push, step_retargeted, outputBound_retargeted, hpending, hposition]
  split <;> rfl

theorem pushAll_retargeted (r : Resampler ℚ) (chunks : List (List Sample)) :
    (r.retargeted.pushAll chunks).1 = (r.pushAll chunks).1 := by
  induction chunks generalizing r with
  | nil => rfl
  | cons chunk chunks ih =>
    have hpush (r : Resampler ℚ) :
        (r.pushAll (chunk :: chunks)).1 = (r.push chunk).1 :: ((r.push chunk).2.pushAll chunks).1 := rfl
    rw [hpush, hpush, push_retargeted, ih]

theorem outputs_retargeted (source target : UInt32) (chunks : List (List Sample)) :
    outputs source (max target 1) chunks = outputs source target chunks :=
  congrArg List.flatten (pushAll_retargeted (new source target) chunks)

theorem outputs_eq_push {source : UInt32} (hsource : 0 < source) (target : UInt32) (chunks : List (List Sample)) :
    outputs source target chunks = ((new source target : Resampler ℚ).push chunks.flatten).1 := by
  have hwhole : ((new source target : Resampler ℚ).push chunks.flatten).1 = outputs source target [chunks.flatten] :=
    (List.append_nil _).symm
  rw [hwhole, ← outputs_retargeted, ← outputs_retargeted source target [chunks.flatten], outputs, outputs,
    pushAll_eq hsource (max_one_pos target), pushAll_eq hsource (max_one_pos target), List.flatten_singleton]

theorem place_same_rate {rate : UInt32} (hrate : 0 < rate) (k : ℕ) : place rate rate k = k := by
  have hpos : (rate.toNat : ℚ) ≠ 0 := Nat.cast_ne_zero.2 (UInt32.lt_iff_toNat_lt.1 hrate).ne'
  rw [place, mul_div_cancel_right₀ _ hpos]

theorem outputCount_same_rate {rate : UInt32} (hrate : 0 < rate) (length : ℕ) :
    outputCount rate rate length = length - 1 := by
  have hpos : (rate.toNat : ℚ) ≠ 0 := Nat.cast_ne_zero.2 (UInt32.lt_iff_toNat_lt.1 hrate).ne'
  rw [outputCount]
  split
  · omega
  · next hlong =>
    have hpred : ((length : ℚ) - 1) = (length - 1 : ℕ) := by rw [Nat.cast_sub (by omega), Nat.cast_one]
    rw [hpred, mul_div_cancel_right₀ _ hpos, Nat.ceil_natCast]

theorem outputs_same_rate {rate : UInt32} (hrate : 0 < rate) (chunks : List (List Sample)) :
    outputs rate rate chunks = chunks.flatten.dropLast := by
  -- every place is a whole number, where the curve is the sample itself
  refine List.ext_getElem ?_ fun k hk hk' => Int16.toInt_inj.1 ?_
  · rw [length_outputs hrate hrate, outputCount_same_rate hrate, List.length_dropLast]
  · have hlt : k < chunks.flatten.length := (List.length_dropLast ▸ hk').trans_le (Nat.sub_le _ _)
    rw [toInt_getElem_outputs hrate hrate, place_same_rate hrate, cut_curve_natCast, List.getElem_dropLast,
      List.getD_eq_getElem _ _ hlt]

end Resampler

/-! ## The three stages -/

namespace Conditioner

variable {spec : StreamSpec} {target : UInt32} {gain : Gain} {units : List (List Sample)}

/-- All that a new tail gives for the units. -/
def outputs (spec : StreamSpec) (target : UInt32) (gain : Gain) (units : List (List Sample)) : List Sample :=
  ((new spec target gain : Conditioner ℚ).processAll units).1.flatten

/-- Audio of one channel at the target rate. -/
def resampled (source target : UInt32) (mono : List Sample) : List Sample :=
  if source = target then mono else ((Resampler.new source target : Resampler ℚ).push mono).1

theorem processAll_of_none {c : Conditioner ℚ} (h : c.resampler = none) (units : List (List Sample)) :
    (c.processAll units).1 = (units.map (downmix c.channels)).map (applyGain c.gain) := by
  induction units with
  | nil => rfl
  | cons unit units ih =>
    have hunit : c.process unit = (applyGain c.gain (downmix c.channels unit), c) := by rw [process, h]
    have hcons : (c.processAll (unit :: units)).1 = (c.process unit).1 :: ((c.process unit).2.processAll units).1 := rfl
    rw [hcons, hunit, ih, List.map_cons, List.map_cons]

theorem processAll_of_some {c : Conditioner ℚ} {r : Resampler ℚ} (h : c.resampler = some r)
    (units : List (List Sample)) :
    (c.processAll units).1 = (r.pushAll (units.map (downmix c.channels))).1.map (applyGain c.gain) := by
  induction units generalizing c r with
  | nil => rfl
  | cons unit units ih =>
    have hunit : c.process unit = (applyGain c.gain (r.push (downmix c.channels unit)).1,
        { c with resampler := some (r.push (downmix c.channels unit)).2 }) := by rw [process, h]
    have hcons : (c.processAll (unit :: units)).1 = (c.process unit).1 :: ((c.process unit).2.processAll units).1 := rfl
    rw [hcons, hunit, ih rfl]
    rfl

theorem applyGain_flatten (g : Gain) (parts : List (List Sample)) :
    (parts.map (applyGain g)).flatten = applyGain g parts.flatten := by
  rw [applyGain_eq_map, List.map_flatten, funext (applyGain_eq_map g)]

theorem downmix_flatten {channels : UInt16} {units : List (List Sample)}
    (hwhole : ∀ unit ∈ units, width channels ∣ unit.length) :
    (units.map (downmix channels)).flatten = downmix channels units.flatten := by
  induction units with
  | nil =>
    have hnil : downmix channels [] = [] := downmix_of_lt (width_pos channels)
    exact hnil.symm
  | cons unit units ih =>
    rw [List.map_cons, List.flatten_cons, List.flatten_cons, downmix_append (hwhole unit List.mem_cons_self),
      ih fun unit' h => hwhole unit' (List.mem_cons_of_mem unit h)]

theorem outputs_of_eq (gain : Gain) (hsame : spec.sampleRate = target)
    (hwhole : ∀ unit ∈ units, width spec.channels ∣ unit.length) :
    outputs spec target gain units = applyGain gain (downmix spec.channels units.flatten) := by
  have hnone : (new spec target gain : Conditioner ℚ).resampler = none := if_pos hsame
  rw [outputs, processAll_of_none hnone, ← downmix_flatten hwhole, ← applyGain_flatten]
  rfl

theorem outputs_of_ne (hother : spec.sampleRate ≠ target) :
    outputs spec target gain units =
      applyGain gain (Resampler.outputs spec.sampleRate target (units.map (downmix spec.channels))) := by
  have hsome : (new spec target gain : Conditioner ℚ).resampler = some (Resampler.new spec.sampleRate target) :=
    if_neg hother
  rw [outputs, processAll_of_some hsome, applyGain_flatten]
  rfl

theorem outputs_eq (hrate : 0 < spec.sampleRate) (hwhole : ∀ unit ∈ units, width spec.channels ∣ unit.length) :
    outputs spec target gain units =
      applyGain gain (resampled spec.sampleRate target (downmix spec.channels units.flatten)) := by
  rw [resampled]
  split
  · next hsame => exact outputs_of_eq gain hsame hwhole
  · next hother => rw [outputs_of_ne hother, Resampler.outputs_eq_push hrate, downmix_flatten hwhole]

/-! ## Magnitudes -/

/-- Between two samples nothing is larger than both, and scaling it does not make it so. -/
theorem abs_scale_le {q : ℚ} (h : gain.number = some q) (hq : 0 ≤ q) {left right s : Sample}
    (hlow : min left.toInt right.toInt ≤ s.toInt) (hhigh : s.toInt ≤ max left.toInt right.toInt) :
    |((scale gain s).toInt : ℚ)| ≤ max |(left.toInt : ℚ)| |(right.toInt : ℚ)| * q := by
  have habs : |(s.toInt : ℚ)| ≤ max |(left.toInt : ℚ)| |(right.toInt : ℚ)| := by
    rcases le_total left.toInt right.toInt with hle | hle
    · rw [min_eq_left hle] at hlow
      rw [max_eq_right hle] at hhigh
      exact abs_le_max_abs_abs (Int.cast_le.2 hlow) (Int.cast_le.2 hhigh)
    · rw [min_eq_right hle] at hlow
      rw [max_eq_left hle] at hhigh
      rw [max_comm]
      exact abs_le_max_abs_abs (Int.cast_le.2 hlow) (Int.cast_le.2 hhigh)
  calc |((scale gain s).toInt : ℚ)| ≤ |s.toInt * q| := abs_toInt_scale_le h
    _ = |(s.toInt : ℚ)| * q := by rw [abs_mul, abs_of_nonneg hq]
    _ ≤ max |(left.toInt : ℚ)| |(right.toInt : ℚ)| * q := mul_le_mul_of_nonneg_right habs hq

theorem getElem_applyGain {samples : List Sample} {k : ℕ} (hk : k < (applyGain gain samples).length)
    (hk' : k < samples.length) : (applyGain gain samples)[k] = scale gain samples[k] := by
  simp only [applyGain_eq_map, List.getElem_map]

theorem place_eq_step (source target : UInt32) (k : ℕ) :
    Resampler.place source (max target 1) k = k * (Resampler.new source target : Resampler ℚ).step := by
  rw [← Resampler.step_retargeted, Resampler.step_eq (Resampler.max_one_pos target), Resampler.place, mul_div_assoc]
  rfl

theorem exists_around_output (hrate : 0 < spec.sampleRate) (hother : spec.sampleRate ≠ target)
    (hwhole : ∀ unit ∈ units, width spec.channels ∣ unit.length) {q : ℚ} (h : gain.number = some q) (hq : 0 ≤ q) {k : ℕ}
    (hk : k < (outputs spec target gain units).length) : ∃ left right,
      (downmix spec.channels units.flatten)[⌊k * (Resampler.new spec.sampleRate target : Resampler ℚ).step⌋₊]? =
        some left ∧
      (downmix spec.channels units.flatten)[⌊k * (Resampler.new spec.sampleRate target : Resampler ℚ).step⌋₊ + 1]? =
        some right ∧
      |((outputs spec target gain units)[k].toInt : ℚ)| ≤ max |(left.toInt : ℚ)| |(right.toInt : ℚ)| * q := by
  have houtputs : outputs spec target gain units = applyGain gain
      (Resampler.outputs spec.sampleRate (max target 1) (units.map (downmix spec.channels))) := by
    rw [outputs_of_ne hother, Resampler.outputs_retargeted]
  have hk' : k < (Resampler.outputs spec.sampleRate (max target 1) (units.map (downmix spec.channels))).length := by
    rwa [houtputs, length_applyGain] at hk
  obtain ⟨left, right, _, hleft, hright, -, -, -, -, hlow, hhigh⟩ :=
    Resampler.exists_around_output hrate (Resampler.max_one_pos target) hk'
  rw [downmix_flatten hwhole, place_eq_step] at hleft hright
  refine ⟨left, right, hleft, hright, ?_⟩
  simp only [houtputs, getElem_applyGain (houtputs ▸ hk) hk']
  exact abs_scale_le h hq hlow hhigh

theorem exists_behind_output (hsame : spec.sampleRate = target)
    (hwhole : ∀ unit ∈ units, width spec.channels ∣ unit.length) {q : ℚ} (h : gain.number = some q) (hq : 0 ≤ q) {k : ℕ}
    (hk : k < (outputs spec target gain units).length) : ∃ sample,
      (downmix spec.channels units.flatten)[k]? = some sample ∧
      |((outputs spec target gain units)[k].toInt : ℚ)| ≤ |(sample.toInt : ℚ)| * q := by
  have houtputs := outputs_of_eq gain hsame hwhole
  have hk' : k < (downmix spec.channels units.flatten).length := by rwa [houtputs, length_applyGain] at hk
  refine ⟨_, List.getElem?_eq_getElem hk', ?_⟩
  simp only [houtputs, getElem_applyGain (houtputs ▸ hk) hk']
  have hbound := abs_scale_le h hq (min_self _).le (max_self _).ge (s := (downmix spec.channels units.flatten)[k])
  rwa [max_self] at hbound

/-- Cut between sample frames in any way, a stream comes out as it does in one piece. At the target rate every sample
passes, where a resampler of step one keeps back the last. No output is larger than the samples it is made from, times
the factor. -/
theorem conditions_as_one_stream (spec : StreamSpec) (hrate : 0 < spec.sampleRate) (hchannels : 0 < spec.channels)
    (target : UInt32) (gain : Gain) (units : List (List Sample))
    (hwhole : ∀ unit ∈ units, spec.channels.toNat ∣ unit.length) :
    outputs spec target gain units =
      applyGain gain (resampled spec.sampleRate target (downmix spec.channels units.flatten)) ∧
    (∀ units' : List (List Sample), (∀ unit ∈ units', spec.channels.toNat ∣ unit.length) →
      units'.flatten = units.flatten → outputs spec target gain units' = outputs spec target gain units) ∧
    (spec.sampleRate = target →
      outputs spec target gain units = applyGain gain (downmix spec.channels units.flatten) ∧
      (Resampler.new target target : Resampler ℚ).step = 1 ∧
      (downmix spec.channels units.flatten).dropLast =
        ((Resampler.new target target : Resampler ℚ).pushAll (units.map (downmix spec.channels))).1.flatten ∧
      (outputs spec target gain units).dropLast = applyGain gain
        ((Resampler.new target target : Resampler ℚ).pushAll (units.map (downmix spec.channels))).1.flatten) ∧
    ∀ q, gain.number = some q → 0 ≤ q → ∀ k (hk : k < (outputs spec target gain units).length),
      (spec.sampleRate = target → ∃ sample, (downmix spec.channels units.flatten)[k]? = some sample ∧
        |((outputs spec target gain units)[k].toInt : ℚ)| ≤ |(sample.toInt : ℚ)| * q) ∧
      (spec.sampleRate ≠ target → ∃ left right,
        (downmix spec.channels units.flatten)[⌊k * (Resampler.new spec.sampleRate target : Resampler ℚ).step⌋₊]? =
          some left ∧
        (downmix spec.channels units.flatten)[⌊k * (Resampler.new spec.sampleRate target : Resampler ℚ).step⌋₊ + 1]? =
          some right ∧
        |((outputs spec target gain units)[k].toInt : ℚ)| ≤ max |(left.toInt : ℚ)| |(right.toInt : ℚ)| * q) := by
  rw [← width_of_pos hchannels] at hwhole ⊢
  refine ⟨outputs_eq hrate hwhole, fun units' hwhole' hflatten => ?_, fun hsame => ?_, fun q h hq k hk =>
    ⟨fun hsame => exists_behind_output hsame hwhole h hq hk,
      fun hother => exists_around_output hrate hother hwhole h hq hk⟩⟩
  · rw [outputs_eq hrate hwhole', outputs_eq hrate hwhole, hflatten]
  · have hpos : 0 < target := hsame ▸ hrate
    have hbypass := outputs_of_eq gain hsame hwhole
    have hbehind := Resampler.outputs_same_rate hpos (units.map (downmix spec.channels))
    rw [downmix_flatten hwhole] at hbehind
    have hstep : (Resampler.new target target : Resampler ℚ).step = 1 := by
      rw [Resampler.step_eq hpos]
      exact div_self (Nat.cast_ne_zero.2 (UInt32.lt_iff_toNat_lt.1 hpos).ne')
    refine ⟨hbypass, hstep, hbehind.symm, ?_⟩
    rw [hbypass, applyGain_eq_map, ← List.map_dropLast, ← hbehind, applyGain_eq_map]
    rfl

theorem conditions_as_one_stream_cut_once :
    outputs ⟨48000, 2⟩ 16000 ⟨0x3f000000⟩ [[100, 100, 200, 200], [300, 300, 400, 400, 500, 500, 600, 600]] =
      outputs ⟨48000, 2⟩ 16000 ⟨0x3f000000⟩ [[100, 100, 200, 200, 300, 300, 400, 400, 500, 500, 600, 600]] ∧
    (outputs ⟨16000, 2⟩ 16000 ⟨0x3f000000⟩ [[100, 100], [200, 200, 300, 300]]).dropLast =
      applyGain ⟨0x3f000000⟩ ((Resampler.new 16000 16000 : Resampler ℚ).pushAll
        ([[100, 100], [200, 200, 300, 300]].map (downmix 2))).1.flatten := by
  constructor
  · exact (conditions_as_one_stream ⟨48000, 2⟩ (by decide) (by decide) 16000 ⟨0x3f000000⟩
      [[100, 100, 200, 200, 300, 300, 400, 400, 500, 500, 600, 600]] (by decide)).2.1 _ (by decide) rfl
  · exact ((conditions_as_one_stream ⟨16000, 2⟩ (by decide) (by decide) 16000 ⟨0x3f000000⟩
      [[100, 100], [200, 200, 300, 300]] (by decide)).2.2.1 rfl).2.2.2

end Conditioner

end Playout.Pcm
