import Mathlib
import Playout.Binary.Format
import Playout.Proofs.Pcm.Cut

/-!
# Exact arithmetic in binary floating point

What a pattern stands for is an integer times a power of two, and so is a product of two such numbers. Where a format
has room for it, nothing is rounded (`nearest_of_fits`): the product of two values is then the product of their
numbers (`number_multiply`). Comparing, clamping and cutting are exact in any case.
-/

namespace Playout.Binary

open Pcm (cut cut_intCast cut_div)

/-! ## Numbers -/

namespace Scaled

variable {x y : Scaled}

def value (x : Scaled) : ℚ := x.mantissa * 2 ^ x.exponent

theorem value_eq {least : ℤ} (h : least ≤ x.exponent) :
    x.value = (x.mantissa * Nat.pow 2 (x.exponent - least).toNat : ℤ) * 2 ^ least := by
  have hplaces : x.exponent = (x.exponent - least).toNat + least := by omega
  rw [value, Nat.pow_eq, Int.cast_mul, Int.cast_natCast, Nat.cast_pow, Nat.cast_ofNat, mul_assoc, ← zpow_natCast,
    ← zpow_add₀ two_ne_zero, ← hplaces]

theorem isLess_iff : x.isLess y ↔ x.value < y.value := by
  rw [value_eq (min_le_left x.exponent y.exponent), value_eq (min_le_right x.exponent y.exponent),
    mul_lt_mul_iff_left₀ (zpow_pos two_pos _), Int.cast_lt]
  exact decide_eq_true_iff

theorem truncate_eq_cut (x : Scaled) : x.truncate = cut x.value := by
  rw [truncate]
  split
  · next hexponent =>
    have hvalue : x.value = (x.mantissa * Nat.pow 2 x.exponent.toNat : ℤ) := by
      rw [value_eq hexponent, sub_zero, zpow_zero, mul_one]
    rw [hvalue, cut_intCast]
  · next hexponent =>
    have hplaces : x.exponent = -((-x.exponent).toNat : ℤ) := by omega
    have hvalue : x.value = x.mantissa / (Nat.pow 2 (-x.exponent).toNat : ℕ) := by
      rw [value, hplaces, zpow_neg, zpow_natCast, neg_neg, Int.toNat_natCast, Nat.pow_eq, Nat.cast_pow, Nat.cast_ofNat,
        div_eq_mul_inv]
    rw [hvalue, cut_div _ (show 0 < Nat.pow 2 _ from Nat.two_pow_pos _)]

theorem value_signed (negative : Bool) (magnitude : ℕ) (exponent : ℤ) :
    (signed negative magnitude exponent).value = (if negative then -1 else 1) * magnitude * 2 ^ exponent := by
  rw [value, signed]
  cases negative <;> simp

end Scaled

def Value.number : Value → Option ℚ
  | .finite negative magnitude exponent => some (Scaled.signed negative magnitude exponent).value
  | _ => none

theorem Value.number_ofInt (n : ℤ) : (ofInt n).number = some (n : ℚ) := by
  have hmantissa : Scaled.signed (decide (n < 0)) n.natAbs 0 = ⟨n, 0⟩ := by
    rw [Scaled.signed]
    congr 1
    simp only [decide_eq_true_eq]
    split <;> omega
  rw [ofInt, number, hmantissa, Scaled.value, zpow_zero, mul_one]

theorem Value.exists_of_number {v : Value} {q : ℚ} (h : v.number = some q) :
    ∃ negative magnitude exponent, v = .finite negative magnitude exponent ∧
      (Scaled.signed negative magnitude exponent).value = q := by
  cases v with
  | nan => cases h
  | infinite => cases h
  | finite negative magnitude exponent => exact ⟨negative, magnitude, exponent, rfl, Option.some.inj h⟩

theorem Value.isLess_iff {v w : Value} {p q : ℚ} (hv : v.number = some p) (hw : w.number = some q) :
    v.isLess w ↔ p < q := by
  obtain ⟨_, _, _, rfl, rfl⟩ := exists_of_number hv
  obtain ⟨_, _, _, rfl, rfl⟩ := exists_of_number hw
  exact Scaled.isLess_iff

theorem Value.number_clamp {v low high : Value} {p q r : ℚ} (hv : v.number = some q) (hlow : low.number = some p)
    (hhigh : high.number = some r) : (v.clamp low high).number = some (min r (max p q)) := by
  have hraised : (if v.isLess low then low else v).number = some (max p q) := by
    split
    · next hless => rw [hlow, max_eq_left ((isLess_iff hv hlow).1 hless).le]
    · next hless => rw [hv, max_eq_right (not_lt.1 (hless ∘ (isLess_iff hv hlow).2))]
  rw [clamp]
  generalize (if v.isLess low then low else v) = raised at hraised ⊢
  split
  · next hless => rw [hhigh, min_eq_left ((isLess_iff hhigh hraised).1 hless).le]
  · next hless => rw [hraised, min_eq_right (not_lt.1 (hless ∘ (isLess_iff hhigh hraised).2))]

/-! ## What a format has room for -/

namespace Format

variable {f : Format} {magnitude : ℕ} {exponent : ℤ}

/-- The format has this number, so nothing is rounded where it is the result. -/
def Holds (f : Format) (q : ℚ) : Prop := ∃ x : Scaled, x.value = q ∧ f.round x = x

/-- No more places than the format keeps, and neither below nor above its range. -/
structure Fits (f : Format) (magnitude : ℕ) (exponent : ℤ) : Prop where
  magnitude_lt : magnitude < 2 ^ (f.fractionBits + 1)
  least_le : f.leastExponent ≤ exponent
  le_greatest : exponent ≤ f.greatestExponent

theorem log2_le (h : magnitude < 2 ^ (f.fractionBits + 1)) : magnitude.log2 ≤ f.fractionBits := by
  rcases Nat.eq_zero_or_pos magnitude with rfl | hpos
  · exact Nat.zero_le _
  · exact Nat.le_of_lt_succ ((Nat.log2_lt hpos.ne').2 h)

theorem round_eq_self {mantissa : ℤ} (hmantissa : mantissa.natAbs < 2 ^ (f.fractionBits + 1))
    (hexponent : f.leastExponent ≤ exponent) : f.round ⟨mantissa, exponent⟩ = ⟨mantissa, exponent⟩ := by
  have hplaces : f.excessPlaces mantissa.natAbs exponent = 0 := by
    rw [excessPlaces, Nat.sub_eq_zero_of_le (log2_le hmantissa), Nat.zero_max]
    omega
  rw [round]
  simp only [hplaces, roundHalfEven, if_pos]
  rw [Int.sign_mul_natAbs, Nat.cast_zero, add_zero]

theorem nearest_of_fits (negative : Bool) (h : f.Fits magnitude exponent) :
    f.nearest negative magnitude exponent = .finite negative magnitude exponent := by
  have hlog := log2_le h.magnitude_lt
  have hround : f.round ⟨magnitude, exponent⟩ = ⟨magnitude, exponent⟩ :=
    round_eq_self h.magnitude_lt h.least_le
  have hrange : ¬ f.greatestExponent + f.fractionBits < magnitude.log2 + exponent := by
    have := h.le_greatest
    omega
  rw [nearest]
  simp only [hround, Int.natAbs_natCast, if_neg hrange]

theorem Fits.mono {g : Format} (h : g.Fits magnitude exponent) (hfraction : g.fractionBits ≤ f.fractionBits)
    (hleast : f.leastExponent ≤ g.leastExponent) (hgreatest : g.greatestExponent ≤ f.greatestExponent) :
    f.Fits magnitude exponent where
  magnitude_lt := h.magnitude_lt.trans_le (Nat.pow_le_pow_right two_pos (by omega))
  least_le := hleast.trans h.least_le
  le_greatest := h.le_greatest.trans hgreatest

theorem fits_of_decode (hbits : 2 ≤ f.exponentBits) {bits : ℕ} {negative : Bool}
    (h : f.decode bits = .finite negative magnitude exponent) : f.Fits magnitude exponent := by
  have hfraction : bits % 2 ^ f.fractionBits < 2 ^ f.fractionBits := Nat.mod_lt _ (Nat.two_pow_pos _)
  have hbiased : bits / 2 ^ f.fractionBits % 2 ^ f.exponentBits < 2 ^ f.exponentBits := Nat.mod_lt _ (Nat.two_pow_pos _)
  have hfour : 2 ^ 2 ≤ 2 ^ f.exponentBits := Nat.pow_le_pow_right two_pos hbits
  have hdouble : 2 ^ (f.fractionBits + 1) = 2 ^ f.fractionBits + 2 ^ f.fractionBits := by rw [pow_succ, mul_two]
  have hgreatest : f.greatestExponent = f.leastExponent + (2 ^ f.exponentBits : ℕ) - 3 := rfl
  rw [decode] at h
  simp only [Nat.pow_eq] at h
  split at h
  · split at h <;> cases h
  · split at h
    all_goals
      cases h
      exact ⟨by omega, by omega, by omega⟩

theorem fields_of_decode_infinite {bits : ℕ} {negative : Bool} (h : f.decode bits = .infinite negative) :
    bits % 2 ^ f.fractionBits = 0 ∧ bits / 2 ^ f.fractionBits % 2 ^ f.exponentBits = 2 ^ f.exponentBits - 1 ∧
    (bits / 2 ^ (f.fractionBits + f.exponentBits) % 2 = 1 ↔ negative) := by
  rw [decode] at h
  simp only [Nat.pow_eq] at h
  split at h
  · next hbiased =>
    split at h
    · next hfraction =>
      cases h
      exact ⟨hfraction, hbiased, beq_iff_eq.symm⟩
    · cases h
  · split at h <;> cases h

/-! ## Arithmetic without rounding -/

theorem convert_of_fits (negative : Bool) (h : f.Fits magnitude exponent) :
    f.convert (.finite negative magnitude exponent) = .finite negative magnitude exponent :=
  nearest_of_fits negative h

theorem number_multiply {negative negative' : Bool} {magnitude' : ℕ} {exponent' : ℤ}
    (h : f.Fits (magnitude * magnitude') (exponent + exponent')) :
    (f.multiply (.finite negative magnitude exponent) (.finite negative' magnitude' exponent')).number =
      some ((Scaled.signed negative magnitude exponent).value *
        (Scaled.signed negative' magnitude' exponent').value) := by
  have hproduct : f.multiply (.finite negative magnitude exponent) (.finite negative' magnitude' exponent') =
      .finite (negative != negative') (magnitude * magnitude') (exponent + exponent') := nearest_of_fits _ h
  have hsign : (if negative != negative' then (-1 : ℚ) else 1) =
      (if negative then -1 else 1) * (if negative' then -1 else 1) := by
    cases negative <;> cases negative' <;> simp
  rw [hproduct, Value.number, Scaled.value_signed, Scaled.value_signed, Scaled.value_signed, hsign,
    zpow_add₀ two_ne_zero, Nat.cast_mul]
  congr 1
  ring

end Format

end Playout.Binary
