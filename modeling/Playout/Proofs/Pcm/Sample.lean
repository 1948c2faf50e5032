import Mathlib
import Playout.Pcm.Sample

/-!
# Samples and their bytes

In either byte order a run of samples can be had back from its bytes, and exchanging the bytes of every pair turns the
one order into the other. A byte string goes the other way round but for a last byte without a partner. Each of these
conversions takes two bytes at a time, so a byte string may be cut anywhere between two pairs.
-/

namespace Playout

theorem lor_shiftLeft_mod {low high width bits : Nat} (hlow : low < 2 ^ width) (hhigh : high * 2 ^ width < 2 ^ bits) :
    low ||| high <<< width % 2 ^ bits = low + high * 2 ^ width := by
  rw [Nat.shiftLeft_eq, Nat.mod_eq_of_lt hhigh, Nat.or_comm, ← Nat.shiftLeft_eq,
    ← Nat.shiftLeft_add_eq_or_of_lt hlow, Nat.shiftLeft_eq, Nat.add_comm]

namespace Sample

theorem toNat_lowByte (s : Sample) : s.lowByte.toNat = s.toUInt16.toNat % 256 := UInt16.toNat_toUInt8 _

theorem toNat_highByte (s : Sample) : s.highByte.toNat = s.toUInt16.toNat / 256 := by
  have hlt := s.toUInt16.toNat_lt
  have hshift : s.highByte.toNat = s.toUInt16.toNat >>> 8 % 256 := UInt16.toNat_toUInt8 _
  rw [hshift, Nat.shiftRight_eq_div_pow]
  omega

theorem toNat_toUInt16_ofBytes (lo hi : UInt8) : (ofBytes lo hi).toUInt16.toNat = lo.toNat + hi.toNat * 2 ^ 8 := by
  have hlo := lo.toNat_lt
  have hhi := hi.toNat_lt
  have hword : (ofBytes lo hi).toUInt16.toNat = lo.toNat ||| hi.toNat <<< 8 % 2 ^ 16 := rfl
  rw [hword, lor_shiftLeft_mod hlo (by omega)]

theorem ofBytes_bytes (s : Sample) : ofBytes s.lowByte s.highByte = s := by
  have hnat : (ofBytes s.lowByte s.highByte).toUInt16.toNat = s.toUInt16.toNat := by
    rw [toNat_toUInt16_ofBytes, toNat_lowByte, toNat_highByte]
    omega
  exact congrArg UInt16.toInt16 (UInt16.toNat_inj.1 hnat)

theorem lowByte_ofBytes (lo hi : UInt8) : (ofBytes lo hi).lowByte = lo := by
  have hlo := lo.toNat_lt
  apply UInt8.toNat_inj.1
  rw [toNat_lowByte, toNat_toUInt16_ofBytes]
  omega

theorem highByte_ofBytes (lo hi : UInt8) : (ofBytes lo hi).highByte = hi := by
  have hlo := lo.toNat_lt
  apply UInt8.toNat_inj.1
  rw [toNat_highByte, toNat_toUInt16_ofBytes]
  omega

/-- The two bytes hold the two's complement. -/
theorem toInt_eq_bmod (s : Sample) : s.toInt = Int.bmod (s.lowByte.toNat + 256 * s.highByte.toNat : ℕ) 65536 := by
  have hword : s.lowByte.toNat + 256 * s.highByte.toNat = s.toUInt16.toNat := by
    rw [toNat_lowByte, toNat_highByte]
    omega
  rw [hword]
  exact s.toBitVec.toInt_eq_toNat_bmod

end Sample

namespace Pcm

/-! ## From samples and back -/

theorem ofLittleEndian_toLittleEndian (samples : List Sample) : ofLittleEndian (toLittleEndian samples) = samples := by
  induction samples with
  | nil => rfl
  | cons s samples ih => rw [toLittleEndian_cons, ofLittleEndian_cons, ih, Sample.ofBytes_bytes]

theorem ofBigEndian_toBigEndian (samples : List Sample) : ofBigEndian (toBigEndian samples) = samples := by
  induction samples with
  | nil => rfl
  | cons s samples ih => rw [toBigEndian_cons, ofBigEndian, ih, Sample.ofBytes_bytes]

theorem swapPairs_toBigEndian (samples : List Sample) : swapPairs (toBigEndian samples) = toLittleEndian samples := by
  induction samples with
  | nil => rfl
  | cons s samples ih => rw [toBigEndian_cons, swapPairs_cons, ih, toLittleEndian_cons]

/-! ## From bytes and back -/

theorem length_ofLittleEndian (bytes : Bytes) : (ofLittleEndian bytes).length = bytes.length / 2 := by
  induction bytes using List.twoStepInduction with
  | nil => rfl
  | singleton b =>
    show 0 = 1 / 2
    rfl
  | cons_cons lo hi rest ih _ =>
    simp only [ofLittleEndian_cons, List.length_cons, ih]
    omega

theorem take_pairs (a b : UInt8) (rest : Bytes) :
    (a :: b :: rest).take ((a :: b :: rest).length - (a :: b :: rest).length % 2) =
      a :: b :: rest.take (rest.length - rest.length % 2) := by
  have hlength : (a :: b :: rest).length - (a :: b :: rest).length % 2 = rest.length - rest.length % 2 + 2 := by
    simp only [List.length_cons]
    omega
  rw [hlength, List.take_succ_cons, List.take_succ_cons]

theorem toLittleEndian_ofLittleEndian (bytes : Bytes) :
    toLittleEndian (ofLittleEndian bytes) = bytes.take (bytes.length - bytes.length % 2) := by
  induction bytes using List.twoStepInduction with
  | nil => rfl
  | singleton b => rfl
  | cons_cons lo hi rest ih _ =>
    rw [ofLittleEndian_cons, toLittleEndian_cons, ih, Sample.lowByte_ofBytes, Sample.highByte_ofBytes, take_pairs]

theorem swapPairs_swapPairs (bytes : Bytes) :
    swapPairs (swapPairs bytes) = bytes.take (bytes.length - bytes.length % 2) := by
  induction bytes using List.twoStepInduction with
  | nil => rfl
  | singleton b => rfl
  | cons_cons a b rest ih _ => rw [swapPairs_cons, swapPairs_cons, ih, take_pairs]

/-! ## Cutting between two pairs -/

theorem ofLittleEndian_append {front : Bytes} (back : Bytes) (h : 2 ∣ front.length) :
    ofLittleEndian (front ++ back) = ofLittleEndian front ++ ofLittleEndian back := by
  induction front using List.twoStepInduction with
  | nil => rfl
  | singleton b => exact absurd h (by simp)
  | cons_cons lo hi rest ih _ =>
    have hrest : 2 ∣ rest.length := by
      simp only [List.length_cons] at h
      omega
    rw [List.cons_append, List.cons_append, ofLittleEndian_cons, ofLittleEndian_cons, ih hrest, List.cons_append]

theorem swapPairs_append {front : Bytes} (back : Bytes) (h : 2 ∣ front.length) :
    swapPairs (front ++ back) = swapPairs front ++ swapPairs back := by
  induction front using List.twoStepInduction with
  | nil => rfl
  | singleton b => exact absurd h (by simp)
  | cons_cons a b rest ih _ =>
    have hrest : 2 ∣ rest.length := by
      simp only [List.length_cons] at h
      omega
    rw [List.cons_append, List.cons_append, swapPairs_cons, swapPairs_cons, ih hrest, List.cons_append,
      List.cons_append]

/-! ## Lengths -/

theorem length_toLittleEndian (samples : List Sample) : (toLittleEndian samples).length = 2 * samples.length := by
  induction samples with
  | nil => rfl
  | cons s samples ih =>
    simp only [toLittleEndian_cons, List.length_cons, ih]
    omega

theorem length_toBigEndian (samples : List Sample) : (toBigEndian samples).length = 2 * samples.length := by
  induction samples with
  | nil => rfl
  | cons s samples ih =>
    simp only [toBigEndian_cons, List.length_cons, ih]
    omega

/-! ## The conversions together -/

/-- **The byte orders fit together.** Samples come back from their bytes in either order, and bytes from their
samples and from two exchanges, but for a last one without a partner. A sample stands in its two bytes as its two's
complement. -/
theorem byte_orders_fit (s : Sample) (samples : List Sample) (bytes front back : Bytes) :
    ofLittleEndian (toLittleEndian samples) = samples ∧
    swapPairs (toBigEndian samples) = toLittleEndian samples ∧
    toLittleEndian (ofLittleEndian bytes) = bytes.take (bytes.length - bytes.length % 2) ∧
    swapPairs (swapPairs bytes) = bytes.take (bytes.length - bytes.length % 2) ∧
    (2 ∣ front.length →
      ofLittleEndian (front ++ back) = ofLittleEndian front ++ ofLittleEndian back ∧
        swapPairs (front ++ back) = swapPairs front ++ swapPairs back) ∧
    ∃ lo hi : UInt8, toLittleEndian [s] = [lo, hi] ∧ toBigEndian [s] = [hi, lo] ∧
      s.toInt = Int.bmod (lo.toNat + 256 * hi.toNat : ℕ) 65536 :=
  ⟨ofLittleEndian_toLittleEndian samples, swapPairs_toBigEndian samples, toLittleEndian_ofLittleEndian bytes,
    swapPairs_swapPairs bytes, fun h => ⟨ofLittleEndian_append back h, swapPairs_append back h⟩, s.lowByte, s.highByte,
    rfl, rfl, s.toInt_eq_bmod⟩

theorem byte_orders_fit_of_odd :
    2 ∣ ([0x01, 0x80] : Bytes).length ∧ toLittleEndian (ofLittleEndian [0xff, 0x7f, 0x05]) = [0xff, 0x7f] ∧
      ofLittleEndian ([0x01, 0x80] ++ [0xff, 0x7f, 0x05]) = [-32767, 32767] ∧
      swapPairs ([0x01, 0x80] ++ [0xff, 0x7f, 0x05]) = [0x80, 0x01, 0x7f, 0xff] := by
  have hpair : 2 ∣ ([0x01, 0x80] : Bytes).length := by decide
  obtain ⟨-, -, hodd, -, hcut, -⟩ := byte_orders_fit 0 [] [0xff, 0x7f, 0x05] [0x01, 0x80] [0xff, 0x7f, 0x05]
  obtain ⟨hsamples, hswapped⟩ := hcut hpair
  refine ⟨hpair, hodd, ?_, ?_⟩
  · rw [hsamples]
    decide
  · rw [hswapped]
    decide

end Pcm

end Playout
