import Mathlib
import Playout.Pcm.Gain
import Playout.Proofs.Binary.Format

/-!
# Scaling is exact

A sample has at most 16 places and a factor at most 24, so binary64 has room for their product: what a sample becomes
is the exact product, held to the range of a sample and cut toward zero (`toInt_scale`). An infinite factor drives
every sound to a bound, and what is not a number is silence. Every one of the 2 ^ 32 patterns is of one of these kinds.
-/

namespace Playout.Pcm

open Binary

/-! ## Patterns -/

namespace Gain

/-- The number of a pattern, by its sign, exponent and fraction. A pattern with all bits of the exponent set has
none. -/
def number (g : Gain) : Option ℚ :=
  let sign : ℚ := if g.bits.toNat / 2 ^ 31 = 1 then -1 else 1
  let biased : ℕ := g.bits.toNat / 2 ^ 23 % 2 ^ 8
  let fraction : ℚ := ((g.bits.toNat % 2 ^ 23 : ℕ) : ℚ) / 2 ^ 23
  if biased = 255 then none
  else if biased = 0 then some (sign * fraction * 2 ^ (-126 : ℤ))
  else some (sign * (1 + fraction) * 2 ^ ((biased : ℤ) - 127))

def infinity (negative : Bool) : Gain := ⟨if negative then 0xff800000 else 0x7f800000⟩

theorem value_infinity (negative : Bool) : (infinity negative).value = .infinite negative := by
  cases negative <;> rfl

theorem number_value (g : Gain) : g.value.number = g.number := by
  have hbits := g.bits.toNat_lt
  have hsign : g.bits.toNat / 2 ^ (23 + 8) % 2 = g.bits.toNat / 2 ^ 31 := by omega
  have hleast : Format.single.leastExponent = -149 := by decide
  have hplaces : (2 : ℚ) ^ (-149 : ℤ) = 2 ^ (-126 : ℤ) / 2 ^ 23 := by norm_num
  rw [value, Format.decode, hleast]
  simp only [Format.single, Nat.pow_eq, hsign, number]
  split
  · split <;> rfl
  · split
    · rw [Value.number, Scaled.value_signed, hplaces]
      simp only [beq_iff_eq]
      congr 1
      ring
    · rw [Value.number, Scaled.value_signed]
      have hexponent : (-149 : ℤ) + ((g.bits.toNat / 2 ^ 23 % 2 ^ 8 : ℕ) - 1) =
          ((g.bits.toNat / 2 ^ 23 % 2 ^ 8 : ℕ) - 127) + -23 := by ring
      rw [hexponent, zpow_add₀ two_ne_zero]
      simp only [beq_iff_eq]
      congr 1
      push_cast
      field_simp
      norm_num

theorem eq_infinity {g : Gain} {negative : Bool} (h : g.value = .infinite negative) : g = infinity negative := by
  have hbits := g.bits.toNat_lt
  obtain ⟨hfraction, hbiased, hsign⟩ := Format.fields_of_decode_infinite h
  simp only [Format.single] at hfraction hbiased hsign
  have hpattern : g.bits.toNat = (infinity negative).bits.toNat := by
    cases negative with
    | false =>
      have hword : (infinity false).bits.toNat = 255 * 2 ^ 23 := rfl
      simp only [Bool.false_eq_true, iff_false] at hsign
      omega
    | true =>
      have hword : (infinity true).bits.toNat = 511 * 2 ^ 23 := rfl
      simp only [iff_true] at hsign
      omega
  exact congrArg Gain.mk (UInt32.toNat_inj.1 hpattern)

theorem value_eq_nan {g : Gain} (hnumber : g.number = none) (hinfinite : ∀ negative, g ≠ infinity negative) :
    g.value = .nan := by
  cases hvalue : g.value with
  | nan => rfl
  | infinite negative => exact absurd (eq_infinity hvalue) (hinfinite negative)
  | finite negative magnitude exponent =>
    rw [← number_value, hvalue] at hnumber
    cases hnumber

theorem number_unity : unity.number = some 1 := by
  have hword : unity.bits.toNat = 127 * 2 ^ 23 := rfl
  rw [number, hword]
  norm_num

end Gain

/-! ## One sample -/

theorem toInt_saturate (n : ℤ) : (saturate n).toInt = max (-32768) (min 32767 n) :=
  Int16.toInt_ofInt_of_le (by omega) (by omega)

theorem toInt_toSample {v : Value} {q : ℚ} (h : v.number = some q) (hlow : -32768 ≤ q) (hhigh : q ≤ 32767) :
    (toSample v).toInt = cut q := by
  obtain ⟨negative, magnitude, exponent, rfl, rfl⟩ := Value.exists_of_number h
  have hlow : -32768 ≤ cut (Scaled.signed negative magnitude exponent).value := le_cut (by exact_mod_cast hlow)
  have hhigh : cut (Scaled.signed negative magnitude exponent).value ≤ 32767 := cut_le (by exact_mod_cast hhigh)
  rw [toSample, toInt_saturate, Scaled.truncate_eq_cut, min_eq_right hhigh, max_eq_right hlow]

theorem natAbs_toInt_le (s : Sample) : s.toInt.natAbs ≤ 2 ^ 15 := by
  have := s.le_toInt
  have := s.toInt_lt
  omega

theorem convert_sample (s : Sample) : Format.double.convert (.ofInt s.toInt) = .ofInt s.toInt :=
  Format.convert_of_fits _ ⟨(natAbs_toInt_le s).trans_lt (by decide), by decide, by decide⟩

theorem toInt_scale {g : Gain} {q : ℚ} (h : g.number = some q) (s : Sample) :
    (scale g s).toInt = cut (min 32767 (max (-32768) (s.toInt * q))) := by
  obtain ⟨negative, magnitude, exponent, hvalue, hnumber⟩ := Value.exists_of_number (g.number_value.trans h)
  have hfits : Format.single.Fits magnitude exponent := Format.fits_of_decode (by decide) hvalue
  have hgain : Format.double.convert g.value = g.value := by
    rw [hvalue, Format.convert_of_fits _ (hfits.mono (by decide) (by decide) (by decide))]
  -- 15 places of the sample and 24 of the factor, where binary64 keeps 53, and far from both ends of its exponents
  have hroom : Format.double.Fits (s.toInt.natAbs * magnitude) (0 + exponent) := by
    have hleast : Format.single.leastExponent = -149 := by decide
    have hgreatest : Format.single.greatestExponent = 104 := by decide
    have hleast' : Format.double.leastExponent = -1074 := by decide
    have hgreatest' : Format.double.greatestExponent = 971 := by decide
    have hproduct : s.toInt.natAbs * magnitude ≤ 2 ^ 15 * 2 ^ 24 :=
      Nat.mul_le_mul (natAbs_toInt_le s) hfits.magnitude_lt.le
    have hexponent := hfits.least_le
    have hexponent' := hfits.le_greatest
    exact ⟨hproduct.trans_lt (by decide), by omega, by omega⟩
  have hproduct : (Format.double.multiply (.ofInt s.toInt) g.value).number = some (s.toInt * q) := by
    rw [hvalue, Value.ofInt, Format.number_multiply hroom, hnumber]
    exact congrArg (fun p => some (p * q)) (Option.some.inj (Value.number_ofInt s.toInt))
  have hclamped := Value.number_clamp hproduct (Value.number_ofInt (-32768)) (Value.number_ofInt 32767)
  rw [scale, convert_sample, hgain]
  -- what is held to the range first has nothing left to saturate
  have hlow : (-32768 : ℚ) ≤ min 32767 (max (-32768) (s.toInt * q)) := le_min (by norm_num) (le_max_left _ _)
  exact toInt_toSample (by exact_mod_cast hclamped) hlow (min_le_left _ _)

theorem scale_infinity (negative : Bool) (s : Sample) :
    scale (Gain.infinity negative) s =
      if s = 0 then 0 else if decide (s < 0) = negative then 32767 else -32768 := by
  have hzero : s.toInt.natAbs = 0 ↔ s = 0 := by
    rw [Int.natAbs_eq_zero, ← Int16.toInt_zero, Int16.toInt_inj]
  have hsign : decide (s.toInt < 0) = decide (s < 0) :=
    decide_eq_decide.2 (by rw [Int16.lt_iff_toInt_lt, Int16.toInt_zero])
  have hgain : Format.double.convert (Gain.infinity negative).value = .infinite negative := by
    rw [Gain.value_infinity]
    rfl
  have hproduct : Format.double.multiply (.ofInt s.toInt) (.infinite negative) =
      if s.toInt.natAbs = 0 then .nan else .infinite (decide (s.toInt < 0) != negative) := rfl
  rw [scale, convert_sample, hgain, hproduct, hsign]
  by_cases h : s = 0
  · rw [if_pos (hzero.2 h), if_pos h]
    rfl
  · rw [if_neg (hzero.not.2 h), if_neg h]
    cases decide (s < 0) <;> cases negative <;> rfl

/-- What is not a number is silence. -/
theorem scale_nan {g : Gain} (h : g.value = .nan) (s : Sample) : scale g s = 0 := by
  rw [scale, convert_sample, h]
  rfl

/-! ## Order and magnitude -/

variable {g : Gain} {q : ℚ} {s t : Sample}

theorem scale_le_scale (h : g.number = some q) (hq : 0 ≤ q) (hle : s ≤ t) : scale g s ≤ scale g t := by
  have hcast : (s.toInt : ℚ) ≤ t.toInt := Int.cast_le.2 (Int16.le_iff_toInt_le.1 hle)
  rw [Int16.le_iff_toInt_le, toInt_scale h, toInt_scale h]
  exact cut_mono (min_le_min_left _ (max_le_max_left _ (mul_le_mul_of_nonneg_right hcast hq)))

theorem scale_le_scale_of_nonpos (h : g.number = some q) (hq : q ≤ 0) (hle : s ≤ t) : scale g t ≤ scale g s := by
  have hcast : (s.toInt : ℚ) ≤ t.toInt := Int.cast_le.2 (Int16.le_iff_toInt_le.1 hle)
  rw [Int16.le_iff_toInt_le, toInt_scale h, toInt_scale h]
  exact cut_mono (min_le_min_left _ (max_le_max_left _ (mul_le_mul_of_nonpos_right hcast hq)))

theorem scale_infinity_le (hle : s ≤ t) : scale (.infinity false) s ≤ scale (.infinity false) t := by
  have htoInt (r : Sample) : (scale (.infinity false) r).toInt =
      if r.toInt = 0 then 0 else if r.toInt < 0 then -32768 else 32767 := by
    rw [scale_infinity, apply_ite Int16.toInt, apply_ite Int16.toInt]
    simp only [decide_eq_false_iff_not, ite_not, ← Int16.toInt_inj, Int16.lt_iff_toInt_lt, Int16.toInt_zero]
    rfl
  rw [Int16.le_iff_toInt_le] at hle ⊢
  rw [htoInt, htoInt]
  split_ifs <;> omega

theorem abs_toInt_scale_le (h : g.number = some q) : |((scale g s).toInt : ℚ)| ≤ |s.toInt * q| := by
  rw [toInt_scale h]
  refine (abs_cut_le _).trans ?_
  rcases le_total 0 (s.toInt * q) with hpos | hneg
  · rw [max_eq_right (le_trans (by norm_num) hpos), abs_of_nonneg hpos, abs_of_nonneg (le_min (by norm_num) hpos)]
    exact min_le_right _ _
  · have hmax : max (-32768) (s.toInt * q) ≤ 0 := max_le (by norm_num) hneg
    rw [min_eq_right (hmax.trans (by norm_num)), abs_of_nonpos hneg, abs_of_nonpos hmax]
    exact neg_le_neg (le_max_right _ _)

/-! ## All samples -/

theorem scale_unity (s : Sample) : scale .unity s = s := by
  have hlow : (-32768 : ℚ) ≤ s.toInt := by exact_mod_cast s.le_toInt
  have hhigh : (s.toInt : ℚ) ≤ 32767 := by exact_mod_cast Int.le_of_lt_add_one s.toInt_lt
  refine Int16.toInt_inj.1 ?_
  rw [toInt_scale Gain.number_unity, mul_one, max_eq_right hlow, min_eq_right hhigh, cut_intCast]

theorem applyGain_eq_map (g : Gain) (samples : List Sample) : applyGain g samples = samples.map (scale g) := by
  rw [applyGain]
  split
  · next hunity => rw [hunity, funext scale_unity, List.map_id']
  · rfl

theorem length_applyGain (g : Gain) (samples : List Sample) : (applyGain g samples).length = samples.length := by
  rw [applyGain_eq_map, List.length_map]

/-- A factor that is a number gives the exact product, held to the range and cut toward zero. An infinite one drives all
but silence to a bound, and any other pattern silences. Factors keep the order of the samples, or turn it around below
zero. -/
theorem scales_exactly (g : Gain) (samples : List Sample) :
    (applyGain g samples).length = samples.length ∧
    applyGain g samples = samples.map (scale g) ∧
    (∀ q, g.number = some q → ∀ s, (scale g s).toInt = cut (min 32767 (max (-32768) (s.toInt * q)))) ∧
    (∀ negative, g = .infinity negative → ∀ s,
      scale g s = if s = 0 then 0 else if decide (s < 0) = negative then 32767 else -32768) ∧
    (g.number = none → (∀ negative, g ≠ .infinity negative) → ∀ s, scale g s = 0) ∧
    ((∃ q, g.number = some q ∧ 0 ≤ q) ∨ g = .infinity false → ∀ s t, s ≤ t → scale g s ≤ scale g t) ∧
    ((∃ q, g.number = some q ∧ q ≤ 0) → ∀ s t, s ≤ t → scale g t ≤ scale g s) := by
  refine ⟨length_applyGain g samples, applyGain_eq_map g samples, fun q h s => toInt_scale h s, ?_,
    fun hnumber hinfinite s => scale_nan (Gain.value_eq_nan hnumber hinfinite) s, ?_, ?_⟩
  · rintro negative rfl s
    exact scale_infinity negative s
  · rintro (⟨q, h, hq⟩ | rfl) s t hle
    · exact scale_le_scale h hq hle
    · exact scale_infinity_le hle
  · rintro ⟨q, h, hq⟩ s t hle
    exact scale_le_scale_of_nonpos h hq hle

theorem scales_exactly_past_bounds :
    Gain.number ⟨0x3fc00000⟩ = some (3 / 2) ∧
    (applyGain ⟨0x3fc00000⟩ [7, -7, 0, 30000, -30000]).map Int16.toInt = [10, -10, 0, 32767, -32768] := by
  have hnumber : Gain.number ⟨0x3fc00000⟩ = some (3 / 2) := by
    have hword : (Gain.bits ⟨0x3fc00000⟩).toNat = 127 * 2 ^ 23 + 2 ^ 22 := rfl
    rw [Gain.number, hword]
    norm_num
  obtain ⟨-, hmap, hexact, -⟩ := scales_exactly ⟨0x3fc00000⟩ [7, -7, 0, 30000, -30000]
  refine ⟨hnumber, ?_⟩
  rw [hmap, List.map_map]
  simp only [List.map_cons, List.map_nil, Function.comp_apply, hexact _ hnumber]
  decide +kernel

end Playout.Pcm
