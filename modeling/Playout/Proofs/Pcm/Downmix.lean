import Mathlib
import Playout.Pcm.Downmix
import Playout.Proofs.Pcm.Cut
import Playout.Proofs.Pcm.Frames

/-!
# Averaging the channels

A frame has at most 65535 samples, so its sum stays within 32 bits, by a margin of little more than one sample, and so
does the sum of any part of it (`toInt_frameSum`). The average lies between the samples of the frame, hence it is a
sample again. Reducing audio to one channel is then one map over its complete frames (`map_toInt_downmix`).
-/

namespace Playout.Pcm

/-- The channels of a frame: no channel counts as one. -/
def width (channels : UInt16) : ℕ := max 1 channels.toNat

/-- The exact sum of samples. -/
def total (samples : List Sample) : ℤ := (samples.map Int16.toInt).sum

/-! ## Sums -/

theorem total_concat (part : List Sample) (s : Sample) : total (part ++ [s]) = total part + s.toInt := by
  rw [total, List.map_append, List.sum_append, List.map_singleton, List.sum_singleton, total]

theorem total_between {samples : List Sample} {low high : ℤ} (hlow : ∀ s ∈ samples, low ≤ s.toInt)
    (hhigh : ∀ s ∈ samples, s.toInt ≤ high) :
    samples.length * low ≤ total samples ∧ total samples ≤ samples.length * high := by
  induction samples with
  | nil => simp [total]
  | cons s samples ih =>
    obtain ⟨hlow', hhigh'⟩ := ih (fun t ht => hlow t (List.mem_cons_of_mem s ht))
      (fun t ht => hhigh t (List.mem_cons_of_mem s ht))
    have hs := hlow s List.mem_cons_self
    have hs' := hhigh s List.mem_cons_self
    have htotal : total (s :: samples) = s.toInt + total samples := List.sum_cons
    rw [htotal, List.length_cons]
    push_cast
    constructor <;> linarith

theorem total_in_range {samples : List Sample} (h : samples.length ≤ 65535) :
    -2 ^ 31 ≤ total samples ∧ total samples < 2 ^ 31 := by
  have hleast : ∀ s ∈ samples, -32768 ≤ s.toInt := fun s _ => s.le_toInt
  have hmost : ∀ s ∈ samples, s.toInt ≤ 32767 := fun s _ => s.toInt_le
  obtain ⟨hlow, hhigh⟩ := total_between hleast hmost
  constructor <;> omega

/-- So nothing wraps around while a frame is summed up. -/
theorem toInt_frameSum {samples : List Sample} (h : samples.length ≤ 65535) :
    (frameSum samples).toInt = total samples := by
  -- the sum grows at its end, and each part of the frame is short enough itself
  induction samples using List.reverseRecOn with
  | nil => rfl
  | append_singleton part s ih =>
    have hrange := total_in_range h
    rw [total_concat] at hrange
    rw [List.length_append, List.length_singleton] at h
    have hsum : frameSum (part ++ [s]) = frameSum part + s.toInt32 := by
      rw [frameSum, List.foldl_append]
      rfl
    rw [hsum, Int32.toInt_add, ih (by omega), Int16.toInt_toInt32, total_concat]
    exact Int.bmod_eq_of_le (by omega) (by omega)

/-! ## Averages -/

theorem average_between {frame : List Sample} (hne : frame ≠ []) {low high : ℤ} (hlow : ∀ s ∈ frame, low ≤ s.toInt)
    (hhigh : ∀ s ∈ frame, s.toInt ≤ high) :
    low ≤ (total frame).tdiv frame.length ∧ (total frame).tdiv frame.length ≤ high := by
  have hlength := List.length_pos_iff.2 hne
  have hpos : (0 : ℚ) < frame.length := Nat.cast_pos.2 hlength
  obtain ⟨hle, hge⟩ := total_between hlow hhigh
  rw [← cut_div _ hlength]
  constructor
  · refine le_cut ?_
    rw [le_div_iff₀' hpos]
    exact_mod_cast hle
  · refine cut_le ?_
    rw [div_le_iff₀' hpos]
    exact_mod_cast hge

theorem average_in_range {frame : List Sample} (hne : frame ≠ []) :
    -32768 ≤ (total frame).tdiv frame.length ∧ (total frame).tdiv frame.length ≤ 32767 :=
  average_between hne (fun s _ => s.le_toInt) (fun s _ => s.toInt_le)

theorem exists_around_average {frame : List Sample} (hne : frame ≠ []) :
    (∃ low ∈ frame, low.toInt ≤ (total frame).tdiv frame.length) ∧
    ∃ high ∈ frame, (total frame).tdiv frame.length ≤ high.toInt := by
  constructor
  · by_contra! hall
    have habove : ∀ s ∈ frame, (total frame).tdiv frame.length + 1 ≤ s.toInt := hall
    obtain ⟨h, -⟩ := average_between hne habove (fun s _ => s.toInt_le)
    omega
  · by_contra! hall
    have hbelow : ∀ s ∈ frame, s.toInt ≤ (total frame).tdiv frame.length - 1 :=
      fun s hs => Int.le_sub_one_of_lt (hall s hs)
    obtain ⟨-, h⟩ := average_between hne (fun s _ => s.le_toInt) hbelow
    omega

/-! ## One frame -/

variable {channels : UInt16} {frame : List Sample}

theorem width_pos (channels : UInt16) : 0 < width channels := Nat.le_max_left 1 _

theorem width_le (channels : UInt16) : width channels ≤ 65535 := by
  have := channels.toNat_lt
  rw [width]
  omega

theorem width_of_le_one (h : channels ≤ 1) : width channels = 1 := Nat.max_eq_left (UInt16.le_iff_toNat_le.1 h)

theorem width_of_pos (h : 0 < channels) : width channels = channels.toNat :=
  Nat.max_eq_right (UInt16.lt_iff_toNat_lt.1 h)

theorem toInt_channels (channels : UInt16) : channels.toUInt32.toInt32.toInt = channels.toNat := by
  have hword : channels.toUInt32.toBitVec.toNat = channels.toNat := channels.toNat_toUInt32
  have hlt := channels.toNat_lt
  have hsigned : channels.toUInt32.toInt32.toInt = channels.toUInt32.toBitVec.toInt := rfl
  rw [hsigned, BitVec.toInt_eq_toNat_of_lt (by omega), hword]

theorem toInt_quotient (hne : frame ≠ []) (hlength : frame.length = channels.toNat) :
    (frameSum frame / channels.toUInt32.toInt32).toInt = (total frame).tdiv channels.toNat := by
  have hlt := channels.toNat_lt
  obtain ⟨hlow, hhigh⟩ := average_in_range hne
  rw [hlength] at hlow hhigh
  rw [Int32.toInt_div, toInt_frameSum (by omega), toInt_channels]
  exact Int.bmod_eq_of_le (by omega) (by omega)

theorem toInt_frameAverage (hne : frame ≠ []) (hlength : frame.length = channels.toNat) :
    (frameAverage channels frame).toInt = (total frame).tdiv channels.toNat := by
  obtain ⟨hlow, hhigh⟩ := average_in_range hne
  rw [hlength] at hlow hhigh
  rw [frameAverage, Int32.toInt_toInt16, toInt_quotient hne hlength]
  exact Int.bmod_eq_of_le (by omega) (by omega)

/-! ## All frames -/

theorem ne_nil_of_mem_wholeFrames {samples : List Sample} (h : frame ∈ wholeFrames (width channels) samples) :
    frame ≠ [] := by
  rintro rfl
  have := length_of_mem_wholeFrames (width_pos channels) h
  exact (width_pos channels).ne this

theorem wholeFrames_one (samples : List Sample) : wholeFrames 1 samples = samples.map fun s => [s] := by
  induction samples with
  | nil => rw [wholeFrames_of_lt (by simp), List.map_nil]
  | cons s samples ih =>
    rw [wholeFrames_of_le one_pos (by simp), List.map_cons, ← ih]
    rfl

theorem map_toInt_downmix (channels : UInt16) (samples : List Sample) :
    (downmix channels samples).map Int16.toInt =
      (wholeFrames (width channels) samples).map fun frame => (total frame).tdiv (width channels) := by
  rw [downmix]
  split
  · next hone =>
    rw [width_of_le_one hone, wholeFrames_one, List.map_map]
    refine List.map_congr_left fun s _ => ?_
    simp [total]
  · next hmore =>
    have hwidth : width channels = channels.toNat :=
      width_of_pos (UInt16.lt_trans (by decide) (UInt16.not_le.1 hmore))
    rw [← hwidth, List.map_map]
    refine List.map_congr_left fun frame hframe => ?_
    have hlength := length_of_mem_wholeFrames (width_pos channels) hframe
    rw [Function.comp_apply, toInt_frameAverage (ne_nil_of_mem_wholeFrames hframe) (hlength.trans hwidth), hwidth]

theorem map_toInt_injective : Function.Injective (List.map Int16.toInt) :=
  List.map_injective_iff.2 fun _ _ => Int16.toInt_inj.1

theorem length_downmix (channels : UInt16) (samples : List Sample) :
    (downmix channels samples).length = samples.length / width channels := by
  have hlength := congrArg List.length (map_toInt_downmix channels samples)
  rwa [List.length_map, List.length_map, length_wholeFrames (width_pos channels)] at hlength

theorem downmix_append {first : List Sample} (h : width channels ∣ first.length) (rest : List Sample) :
    downmix channels (first ++ rest) = downmix channels first ++ downmix channels rest := by
  refine map_toInt_injective ?_
  rw [List.map_append, map_toInt_downmix, map_toInt_downmix, map_toInt_downmix, ← List.map_append,
    wholeFrames_append (width_pos channels), frameRemainder_of_dvd h, List.nil_append]

theorem downmix_of_lt {samples : List Sample} (h : samples.length < width channels) : downmix channels samples = [] :=
  List.length_eq_zero_iff.1 (by rw [length_downmix, Nat.div_eq_of_lt h])

theorem downmix_take (channels : UInt16) (samples : List Sample) :
    downmix channels (samples.take (samples.length / width channels * width channels)) = downmix channels samples := by
  have hle : samples.length / width channels * width channels ≤ samples.length := Nat.div_mul_le_self _ _
  have hdvd : width channels ∣ (samples.take (samples.length / width channels * width channels)).length := by
    rw [List.length_take_of_le hle]
    exact Nat.dvd_mul_left _ _
  have hrest : (samples.drop (samples.length / width channels * width channels)).length < width channels :=
    length_frameRemainder_lt (width_pos channels) samples
  conv_rhs => rw [← List.take_append_drop (samples.length / width channels * width channels) samples,
    downmix_append hdvd, downmix_of_lt hrest, List.append_nil]

/-- Neither the sum of a frame nor that of a part of it leaves 32 bits. The output has for each complete frame its exact
average, cut toward zero and between the samples of the frame. The rest is left out, and cuts between frames do not
show. -/
theorem downmix_averages (channels : UInt16) (samples : List Sample) :
    (∀ frame ∈ wholeFrames (width channels) samples,
      (∀ part, part <+: frame →
        -2 ^ 31 ≤ total part ∧ total part < 2 ^ 31 ∧ (frameSum part).toInt = total part) ∧
      -32768 ≤ (total frame).tdiv (width channels) ∧ (total frame).tdiv (width channels) ≤ 32767 ∧
      (0 < channels →
        (frameSum frame / channels.toUInt32.toInt32).toInt = (total frame).tdiv (width channels))) ∧
    (downmix channels samples).length = samples.length / width channels ∧
    (∀ k (h : k < (downmix channels samples).length), ∃ frame,
      frame = (samples.drop (k * width channels)).take (width channels) ∧ frame.length = width channels ∧
      (downmix channels samples)[k].toInt = (total frame).tdiv (width channels) ∧
      (∃ low ∈ frame, low ≤ (downmix channels samples)[k]) ∧ ∃ high ∈ frame, (downmix channels samples)[k] ≤ high) ∧
    downmix channels (samples.take (samples.length / width channels * width channels)) = downmix channels samples ∧
    ∀ more, width channels ∣ samples.length →
      downmix channels (samples ++ more) = downmix channels samples ++ downmix channels more := by
  refine ⟨fun frame hframe => ?_, length_downmix channels samples, fun k h => ?_, downmix_take channels samples,
    fun more hdvd => downmix_append hdvd more⟩
  · have hlength := length_of_mem_wholeFrames (width_pos channels) hframe
    have hne := ne_nil_of_mem_wholeFrames hframe
    obtain ⟨hlow, hhigh⟩ := average_in_range hne
    rw [hlength] at hlow hhigh
    refine ⟨fun part hpart => ?_, hlow, hhigh, fun hpos => ?_⟩
    · have hpartial : part.length ≤ 65535 := hpart.length_le.trans (hlength.trans_le (width_le channels))
      obtain ⟨hleast, hmost⟩ := total_in_range hpartial
      exact ⟨hleast, hmost, toInt_frameSum hpartial⟩
    · rw [width_of_pos hpos]
      exact toInt_quotient hne (hlength.trans (width_of_pos hpos))
  · have hk : k < samples.length / width channels := length_downmix channels samples ▸ h
    have hget := getElem?_wholeFrames (width_pos channels) samples hk
    have hmem := List.mem_of_getElem? hget
    have hlength := length_of_mem_wholeFrames (width_pos channels) hmem
    have hvalue : (downmix channels samples)[k].toInt =
        (total ((samples.drop (k * width channels)).take (width channels))).tdiv (width channels) := by
      have hmap := congrArg (fun values => values[k]?) (map_toInt_downmix channels samples)
      simp only [List.getElem?_map, hget, List.getElem?_eq_getElem h, Option.map_some, Option.some.injEq] at hmap
      exact hmap
    obtain ⟨⟨low, hlow, hle⟩, high, hhigh, hge⟩ := exists_around_average (ne_nil_of_mem_wholeFrames hmem)
    rw [hlength, ← hvalue] at hle hge
    exact ⟨_, rfl, hlength, hvalue, ⟨low, hlow, Int16.le_iff_toInt_le.2 hle⟩, high, hhigh,
      Int16.le_iff_toInt_le.2 hge⟩

theorem downmix_averages_of_three :
    (frameSum [32767, 32767, 32767] / (3 : UInt16).toUInt32.toInt32).toInt = 32767 ∧
    (∃ h : 1 < (downmix 3 [32767, 32767, 32767, -1, -2, -2, 5]).length,
      (downmix 3 [32767, 32767, 32767, -1, -2, -2, 5])[1].toInt = -1) ∧
    downmix 3 ([32767, 32767, 32767] ++ [-1, -2, -2, 5]) =
      downmix 3 [32767, 32767, 32767] ++ downmix 3 [-1, -2, -2, 5] := by
  have hwidth : width 3 = 3 := rfl
  have hmem : [32767, 32767, 32767] ∈ wholeFrames (width 3) ([32767, 32767, 32767, -1, -2, -2, 5] : List Sample) := by
    rw [hwidth, wholeFrames_of_le (by decide) (by decide)]
    exact List.mem_cons_self
  obtain ⟨hframes, hlength, haverage, -, -⟩ := downmix_averages 3 [32767, 32767, 32767, -1, -2, -2, 5]
  have h : 1 < (downmix 3 [32767, 32767, 32767, -1, -2, -2, 5]).length := by
    rw [hlength]
    decide
  obtain ⟨frame, hframe, -, hvalue, -⟩ := haverage 1 h
  have hquotient : (total [-1, -2, -2]).tdiv (width 3) = -1 := by decide
  refine ⟨?_, ⟨h, ?_⟩, (downmix_averages 3 [32767, 32767, 32767]).2.2.2.2 [-1, -2, -2, 5] ⟨1, rfl⟩⟩
  · exact (hframes _ hmem).2.2.2 (by decide)
  · rw [hvalue, hframe]
    exact hquotient

end Playout.Pcm
