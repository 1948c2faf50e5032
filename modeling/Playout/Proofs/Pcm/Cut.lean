import Mathlib

/-!
# Integer parts

A number becomes a sample by losing its fraction, which takes it toward zero (`cut`). Cutting keeps the order, never
adds to a magnitude, and two numbers move apart by less than one (`abs_cut_sub_cut_lt`). Everything about it follows
from the two sides of zero (`cut_cases`).
-/

namespace Playout.Pcm

/-- The integer part, toward zero. -/
def cut (q : ℚ) : ℤ := if 0 ≤ q then ⌊q⌋ else ⌈q⌉

theorem cut_cases (q : ℚ) :
    (0 ≤ q ∧ (0 : ℚ) ≤ cut q ∧ cut q ≤ q ∧ q < cut q + 1) ∨
    (q < 0 ∧ (cut q : ℚ) ≤ 0 ∧ q ≤ cut q ∧ cut q < q + 1) := by
  rcases lt_or_ge q 0 with hneg | hpos
  · right
    rw [cut, if_neg hneg.not_ge]
    exact ⟨hneg, Int.cast_nonpos.2 (Int.ceil_nonpos.2 hneg.le), Int.le_ceil q, Int.ceil_lt_add_one q⟩
  · left
    rw [cut, if_pos hpos]
    exact ⟨hpos, Int.cast_nonneg (Int.floor_nonneg.2 hpos), Int.floor_le q, Int.lt_floor_add_one q⟩

@[simp] theorem cut_intCast (n : ℤ) : cut n = n := by
  rw [cut, Int.floor_intCast, Int.ceil_intCast, ite_self]

theorem cut_div (n : ℤ) {d : ℕ} (hd : 0 < d) : cut (n / d) = n.tdiv d := by
  have hpos : (0 : ℚ) < d := Nat.cast_pos.2 hd
  rcases lt_or_ge n 0 with hneg | hnonneg
  · have hquotient : (n / d : ℚ) < 0 := div_neg_of_neg_of_pos (Int.cast_lt_zero.2 hneg) hpos
    rw [cut, if_neg hquotient.not_ge, Rat.ceil_intCast_div_natCast, ← Int.tdiv_eq_ediv_of_nonneg (by omega),
      Int.neg_tdiv, neg_neg]
  · have hquotient : (0 : ℚ) ≤ n / d := div_nonneg (Int.cast_nonneg hnonneg) hpos.le
    rw [cut, if_pos hquotient, Rat.floor_intCast_div_natCast, Int.tdiv_eq_ediv_of_nonneg hnonneg]

theorem tdiv_eq_cut (q : ℚ) : q.num.tdiv q.den = cut q := by
  rw [← cut_div q.num q.den_pos, Rat.num_div_den]

theorem cut_le {q : ℚ} {bound : ℤ} (h : q ≤ bound) : cut q ≤ bound := by
  rw [cut]
  split
  · exact Int.cast_le.1 ((Int.floor_le q).trans h)
  · exact Int.ceil_le.2 h

theorem le_cut {q : ℚ} {bound : ℤ} (h : bound ≤ q) : bound ≤ cut q := by
  rw [cut]
  split
  · exact Int.le_floor.2 h
  · exact Int.cast_le.1 (h.trans (Int.le_ceil q))

theorem cut_mono {p q : ℚ} (h : p ≤ q) : cut p ≤ cut q := by
  rcases lt_or_ge p 0 with hneg | hpos
  · rcases cut_cases q with ⟨-, hq, -⟩ | ⟨hq, -⟩
    · have hp : cut p ≤ 0 := cut_le (by exact_mod_cast hneg.le)
      exact hp.trans (by exact_mod_cast hq)
    · rw [cut, cut, if_neg hneg.not_ge, if_neg hq.not_ge]
      exact Int.ceil_mono h
  · rw [cut, cut, if_pos hpos, if_pos (hpos.trans h)]
    exact Int.floor_mono h

theorem abs_cut_le (q : ℚ) : |(cut q : ℚ)| ≤ |q| := by
  rcases cut_cases q with ⟨hq, hcut, hle, -⟩ | ⟨hq, hcut, hle, -⟩
  · rwa [abs_of_nonneg hcut, abs_of_nonneg hq]
  · rw [abs_of_nonpos hcut, abs_of_neg hq]
    exact neg_le_neg hle

theorem abs_cut_sub_cut_lt (p q : ℚ) : |(cut p : ℚ) - cut q| < |p - q| + 1 := by
  have hle := le_abs_self (p - q)
  have hge := neg_abs_le (p - q)
  have hnonneg := abs_nonneg (p - q)
  rw [abs_lt]
  -- on one side both lose less than one in the same direction, and across zero both lose toward the other
  rcases cut_cases p with ⟨hp, hp0, hple, hplt⟩ | ⟨hp, hp0, hple, hplt⟩ <;>
    rcases cut_cases q with ⟨hq, hq0, hqle, hqlt⟩ | ⟨hq, hq0, hqle, hqlt⟩ <;>
    constructor <;> linarith

end Playout.Pcm
