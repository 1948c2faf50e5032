import Mathlib
import Playout.Pcm.Resampler
import Playout.Proofs.Binary.Format
import Playout.Proofs.Pcm.Cut

/-!
# Resampling chunk by chunk is one pass over the input

In exact arithmetic the outputs of a resampler are readings of one curve through its input, at the multiples of the
step (`reading`). After every chunk the resampler has given just the readings that the input so far allows (`Tracks`):
one call of the loop reads on from where the last one stopped, to the first place that lacks a sample around it
(`readAll_eq`), and its fuel is never spent (`exists_readAll`). So where the input is cut does not show.
-/

namespace Playout

namespace Pcm

/-! ## Readings -/

/-- The value of the curve through the samples, at a place counted in samples. -/
def curve (samples : List Sample) (place : ℚ) : ℚ :=
  let left := (samples.getD ⌊place⌋₊ 0).toInt
  let right := (samples.getD (⌊place⌋₊ + 1) 0).toInt
  left + (right - left) * (place - ⌊place⌋₊)

theorem cut_curve_natCast (samples : List Sample) (n : ℕ) : cut (curve samples n) = (samples.getD n 0).toInt := by
  simp [curve, cut]

/-- The sample read at a place. -/
def reading (samples : List Sample) (place : ℚ) : Sample :=
  ReadPosition.between (samples.getD ⌊place⌋₊ 0) (samples.getD (⌊place⌋₊ + 1) 0) (place - ⌊place⌋₊)

theorem toInt_between (left right : Sample) {fraction : ℚ} (hpos : 0 ≤ fraction) (hle : fraction ≤ 1) :
    (ReadPosition.between left right fraction).toInt = cut (left.toInt + (right.toInt - left.toInt) * fraction) := by
  have hvalue : ReadPosition.between left right fraction =
      Int16.ofInt (max (-32768) (min 32767 (cut (left.toInt + (right.toInt - left.toInt) * fraction)))) := by
    rw [← tdiv_eq_cut, ← Int.cast_sub]
    rfl
  have hlow : -32768 ≤ cut (left.toInt + (right.toInt - left.toInt) * fraction) := by
    have hleft : (-32768 : ℚ) ≤ left.toInt := by exact_mod_cast left.le_toInt
    have hright : (-32768 : ℚ) ≤ right.toInt := by exact_mod_cast right.le_toInt
    refine le_cut ?_
    push_cast
    nlinarith only [mul_nonneg (sub_nonneg.2 hleft) (sub_nonneg.2 hle), mul_nonneg (sub_nonneg.2 hright) hpos]
  have hhigh : cut (left.toInt + (right.toInt - left.toInt) * fraction) ≤ 32767 := by
    have hleft : (left.toInt : ℚ) ≤ 32767 := by exact_mod_cast Int.le_of_lt_add_one left.toInt_lt
    have hright : (right.toInt : ℚ) ≤ 32767 := by exact_mod_cast Int.le_of_lt_add_one right.toInt_lt
    refine cut_le ?_
    push_cast
    nlinarith only [mul_nonneg (sub_nonneg.2 hleft) (sub_nonneg.2 hle), mul_nonneg (sub_nonneg.2 hright) hpos]
  rw [hvalue, min_eq_right hhigh, max_eq_right hlow]
  exact Int16.toInt_ofInt_of_le (by omega) (by omega)

theorem toInt_reading (samples : List Sample) {place : ℚ} (h : 0 ≤ place) :
    (reading samples place).toInt = cut (curve samples place) :=
  toInt_between _ _ (sub_nonneg.2 (Nat.floor_le h)) (by linarith [Nat.lt_floor_add_one place])

namespace Resampler

/-! ## The loop -/

section Loop

variable {step position : ℚ} {input : List Sample} {fuel first dropped : ℕ}

theorem index_eq (position : ℚ) : ReadPosition.index position = ⌊position⌋₊ := Int.floor_toNat position

theorem ofIndex_eq (n : ℕ) : (ReadPosition.ofIndex n : ℚ) = n := Rat.ofInt_eq_cast n

theorem floor_place (hpos : 0 ≤ position) (dropped : ℕ) : ⌊position + dropped⌋₊ = dropped + ⌊position⌋₊ := by
  rw [Nat.floor_add_natCast hpos, add_comm]

/-- One turn of the loop over what is left of the input, where the samples around the position are there. -/
theorem readAll_of_lt (hpos : 0 ≤ position) (hfirst : first ≤ ⌊position⌋₊)
    (h : ⌊position + dropped⌋₊ + 1 < input.length) :
    readAll step (fuel + 1) first (input.drop (dropped + first)) position =
      (reading input (position + dropped) ::
          (readAll step fuel ⌊position⌋₊ (input.drop (dropped + ⌊position⌋₊)) (position + step)).1,
        (readAll step fuel ⌊position⌋₊ (input.drop (dropped + ⌊position⌋₊)) (position + step)).2) := by
  rw [floor_place hpos] at h
  have hdrop : (input.drop (dropped + first)).drop (⌊position⌋₊ - first) = input.drop (dropped + ⌊position⌋₊) := by
    rw [List.drop_drop]
    congr 1
    omega
  have hcons : input.drop (dropped + ⌊position⌋₊) =
      input[dropped + ⌊position⌋₊] :: input[dropped + ⌊position⌋₊ + 1] ::
        input.drop (dropped + ⌊position⌋₊ + 1 + 1) := by
    rw [List.drop_eq_getElem_cons, List.drop_eq_getElem_cons]
  have hreading : reading input (position + dropped) =
      ReadPosition.between input[dropped + ⌊position⌋₊] input[dropped + ⌊position⌋₊ + 1] (position - ⌊position⌋₊) := by
    have hfraction : position + dropped - (dropped + ⌊position⌋₊ : ℕ) = position - ⌊position⌋₊ := by
      push_cast
      ring
    rw [reading, floor_place hpos, List.getD_eq_getElem _ _ (by omega), List.getD_eq_getElem _ _ h, hfraction]
  rw [readAll, index_eq, ofIndex_eq]
  simp only [hdrop]
  rw [hreading, hcons]

theorem readAll_of_le (hpos : 0 ≤ position) (hfirst : first ≤ ⌊position⌋₊)
    (h : input.length ≤ ⌊position + dropped⌋₊ + 1) :
    readAll step (fuel + 1) first (input.drop (dropped + first)) position = ([], position) := by
  rw [floor_place hpos] at h
  have hshort : ((input.drop (dropped + first)).drop (⌊position⌋₊ - first)).length ≤ 1 := by
    rw [List.drop_drop, List.length_drop]
    omega
  rw [readAll, index_eq]
  match hdrop : (input.drop (dropped + first)).drop (⌊position⌋₊ - first), hshort with
  | [], _ => rfl
  | [sample], _ => rfl

theorem readAll_eq (input : List Sample) (dropped fuel : ℕ) (hstep : 0 ≤ step) (hpos : 0 ≤ position)
    (hfirst : first ≤ ⌊position⌋₊) :
    ∃ count ≤ fuel,
      readAll step fuel first (input.drop (dropped + first)) position =
        ((List.range count).map fun i : ℕ => reading input (position + dropped + i * step), position + count * step) ∧
      (∀ i < count, ⌊position + dropped + i * step⌋₊ + 1 < input.length) ∧
      (count < fuel → input.length ≤ ⌊position + dropped + count * step⌋₊ + 1) := by
  induction fuel generalizing first position with
  | zero => exact ⟨0, le_refl 0, by simp [readAll], by simp, by simp⟩
  | succ fuel ih =>
    by_cases h : ⌊position + dropped⌋₊ + 1 < input.length
    · have hnext : ⌊position⌋₊ ≤ ⌊position + step⌋₊ := Nat.floor_mono (by linarith)
      obtain ⟨count, hcount, hread, hreached, hend⟩ := ih (add_nonneg hpos hstep) hnext
      have hshift (i : ℕ) : position + step + dropped + i * step = position + dropped + (i + 1 : ℕ) * step := by
        push_cast
        ring
      simp only [hshift] at hread hreached hend
      refine ⟨count + 1, by omega, ?_, ?_, fun hlt => hend (by omega)⟩
      · rw [readAll_of_lt hpos hfirst h, hread, List.range_succ_eq_map, List.map_cons, List.map_map, Nat.cast_zero,
          zero_mul, add_zero]
        refine Prod.ext rfl ?_
        push_cast
        ring
      · intro i hi
        cases i with
        | zero => simpa using h
        | succ i => exact hreached i (by omega)
    · refine ⟨0, Nat.zero_le _, ?_, by simp, fun _ => by simpa using h⟩
      rw [readAll_of_le hpos hfirst (by omega)]
      simp

end Loop

/-! ## One chunk -/

variable {r : Resampler ℚ} {input : List Sample} {count : ℕ}

theorem max_one {rate : UInt32} (h : 0 < rate) : max rate 1 = rate := by
  have hpos : 0 < rate.toNat := UInt32.lt_iff_toNat_lt.1 h
  show (if rate ≤ 1 then 1 else rate) = rate
  split
  · next hle =>
    have hone : rate.toNat ≤ 1 := UInt32.le_iff_toNat_le.1 hle
    exact UInt32.toNat_inj.1 (le_antisymm hpos hone)
  · rfl

theorem step_eq (htarget : 0 < r.target) : r.step = r.source.toNat / r.target.toNat := by
  have hstep : r.step = mkRat r.source.toNat (max r.target 1).toNat := rfl
  rw [hstep, max_one htarget, Rat.mkRat_eq_div, Int.cast_natCast]

theorem step_pos (hsource : 0 < r.source) (htarget : 0 < r.target) : 0 < r.step := by
  rw [step_eq htarget]
  exact div_pos (Nat.cast_pos.2 (UInt32.lt_iff_toNat_lt.1 hsource)) (Nat.cast_pos.2 (UInt32.lt_iff_toNat_lt.1 htarget))

/-- The fuel of the loop lasts beyond the last sample. -/
theorem exists_outputBound (hsource : 0 < r.source) (htarget : 0 < r.target) (length : ℕ) :
    ∃ turns, r.outputBound length = turns + 1 ∧ length < turns * r.step := by
  have hs : 0 < r.source.toNat := UInt32.lt_iff_toNat_lt.1 hsource
  have ht : 0 < r.target.toNat := UInt32.lt_iff_toNat_lt.1 htarget
  refine ⟨2 * (length * r.target.toNat / r.source.toNat) + 1, by rw [outputBound, max_one htarget], ?_⟩
  have hlt : length * r.target.toNat < (2 * (length * r.target.toNat / r.source.toNat) + 1) * r.source.toNat := by
    have hdiv := Nat.lt_mul_div_succ (length * r.target.toNat) hs
    nlinarith only [hdiv, Nat.zero_le (length * r.target.toNat / r.source.toNat), hs]
  rw [step_eq htarget, ← mul_div_assoc, lt_div_iff₀ (Nat.cast_pos.2 ht)]
  exact_mod_cast hlt

/-- What the loop of a push gives, and where it stops. -/
def loop (r : Resampler ℚ) (chunk : List Sample) : List Sample × ℚ :=
  readAll r.step (r.outputBound (r.pending ++ chunk).length) 0 (r.pending ++ chunk) r.position

/-- A push ends by itself: there is too little to start, or a sample around the position is missing where it stops. -/
def Ends (r : Resampler ℚ) (chunk : List Sample) : Prop :=
  (r.pending ++ chunk).length < 2 ∨ (r.pending ++ chunk).length ≤ ReadPosition.index (r.loop chunk).2 + 1

theorem push_of_short {chunk : List Sample} (h : (r.pending ++ chunk).length < 2) :
    r.push chunk = ([], { r with pending := r.pending ++ chunk }) := if_pos h

theorem push_of_long {chunk : List Sample} (h : ¬ (r.pending ++ chunk).length < 2) :
    r.push chunk = ((r.loop chunk).1,
      { r with
        pending := (r.pending ++ chunk).drop (min ⌊(r.loop chunk).2⌋₊ (r.pending ++ chunk).length)
        position := (r.loop chunk).2 - (min ⌊(r.loop chunk).2⌋₊ (r.pending ++ chunk).length : ℕ) }) := by
  rw [push, ← index_eq, ← ofIndex_eq]
  exact if_neg h

theorem loop_eq (hsource : 0 < r.source) (htarget : 0 < r.target) (hpos : 0 ≤ r.position) {chunk whole : List Sample}
    {dropped : ℕ} (hsamples : r.pending ++ chunk = whole.drop dropped)
    (hlength : (r.pending ++ chunk).length + dropped = whole.length) :
    ∃ more : ℕ,
      r.loop chunk =
        ((List.range more).map fun i : ℕ => reading whole (r.position + dropped + i * r.step),
          r.position + more * r.step) ∧
      (∀ i < more, ⌊r.position + dropped + i * r.step⌋₊ + 1 < whole.length) ∧
      whole.length ≤ ⌊r.position + dropped + more * r.step⌋₊ + 1 := by
  obtain ⟨more, hmore, hloop, hreach, hend⟩ := readAll_eq whole dropped
    (r.outputBound (r.pending ++ chunk).length) (step_pos hsource htarget).le hpos (Nat.zero_le _)
  rw [Nat.add_zero, ← hsamples] at hloop
  obtain ⟨turns, hturns, hfuel⟩ := exists_outputBound hsource htarget (r.pending ++ chunk).length
  have hspare : more < r.outputBound (r.pending ++ chunk).length := by
    refine lt_of_le_of_ne hmore fun hspent => ?_
    have hlast := hreach turns (by omega)
    have hplace := Nat.lt_of_floor_lt (Nat.lt_of_succ_lt hlast)
    rw [← hlength, Nat.cast_add] at hplace
    linarith
  exact ⟨more, hloop, hreach, hend hspare⟩

/-- The resampler has given the readings of the input at the first `count` multiples of its step, and no more are
there. -/
structure Tracks (r : Resampler ℚ) (input : List Sample) (count : ℕ) : Prop where
  position_nonneg : 0 ≤ r.position
  pending_eq : ∃ dropped ≤ input.length, r.pending = input.drop dropped ∧ r.position + dropped = count * r.step
  reached : ∀ i < count, ⌊i * r.step⌋₊ + 1 < input.length
  settled : input.length ≤ ⌊count * r.step⌋₊ + 1

/-- A push ends by itself and goes on with the readings where the pushes before it stopped. -/
theorem push_tracks (hsource : 0 < r.source) (htarget : 0 < r.target) (h : Tracks r input count) (chunk : List Sample) :
    r.Ends chunk ∧ (r.push chunk).2.source = r.source ∧ (r.push chunk).2.target = r.target ∧
    ∃ more, Tracks (r.push chunk).2 (input ++ chunk) (count + more) ∧
      (r.push chunk).1 = (List.range' count more).map fun i : ℕ => reading (input ++ chunk) (i * r.step) := by
  obtain ⟨dropped, hdropped, hpending, hposition⟩ := h.pending_eq
  have hsamples : r.pending ++ chunk = (input ++ chunk).drop dropped := by
    rw [hpending, List.drop_append_of_le_length hdropped]
  have hlength : (r.pending ++ chunk).length + dropped = (input ++ chunk).length := by
    rw [hsamples, List.length_drop, List.length_append]
    omega
  have hreached (more : ℕ) (hmore : ∀ i < more, ⌊r.position + dropped + i * r.step⌋₊ + 1 < (input ++ chunk).length) :
      ∀ i < count + more, ⌊i * r.step⌋₊ + 1 < (input ++ chunk).length := by
    intro i hi
    rcases Nat.lt_or_ge i count with hlt | hge
    · have := h.reached i hlt
      rw [List.length_append]
      omega
    · have := hmore (i - count) (by omega)
      rwa [hposition, ← add_mul, ← Nat.cast_add, Nat.add_sub_cancel' hge] at this
  by_cases hshort : (r.pending ++ chunk).length < 2
  · have hend : (input ++ chunk).length ≤ ⌊count * r.step⌋₊ + 1 := by
      have hle : dropped ≤ ⌊count * r.step⌋₊ := Nat.le_floor (by linarith [h.position_nonneg])
      omega
    rw [push_of_short hshort]
    exact ⟨.inl hshort, rfl, rfl, 0,
      ⟨h.position_nonneg, ⟨dropped, by omega, hsamples, hposition⟩, hreached 0 (by simp), hend⟩, rfl⟩
  · obtain ⟨more, hloop, hreach, hend⟩ := loop_eq hsource htarget h.position_nonneg hsamples hlength
    have hstop : 0 ≤ r.position + more * r.step :=
      add_nonneg h.position_nonneg (mul_nonneg (Nat.cast_nonneg _) (step_pos hsource htarget).le)
    have htotal : r.position + dropped + more * r.step = (count + more : ℕ) * r.step := by
      rw [hposition]
      push_cast
      ring
    have hsettled : (input ++ chunk).length ≤ ⌊(count + more : ℕ) * r.step⌋₊ + 1 := htotal ▸ hend
    have hplace : ⌊(count + more : ℕ) * r.step⌋₊ = dropped + ⌊r.position + more * r.step⌋₊ := by
      rw [← floor_place hstop, ← htotal, add_right_comm]
    have hstopped : (r.loop chunk).2 = r.position + more * r.step := congrArg Prod.snd hloop
    have hgiven : (r.loop chunk).1 =
        (List.range more).map fun i : ℕ => reading (input ++ chunk) (r.position + dropped + i * r.step) :=
      congrArg Prod.fst hloop
    rw [push_of_long hshort, Ends, hstopped, hgiven, index_eq]
    refine ⟨.inr (by omega), rfl, rfl, more, ⟨?_, ?_, hreached more hreach, hsettled⟩, ?_⟩
    · have hle :
          ((min ⌊r.position + more * r.step⌋₊ (r.pending ++ chunk).length : ℕ) : ℚ) ≤ r.position + more * r.step :=
        (Nat.cast_le.2 (min_le_left _ _)).trans (Nat.floor_le hstop)
      exact sub_nonneg.2 hle
    · refine ⟨dropped + min ⌊r.position + more * r.step⌋₊ (r.pending ++ chunk).length, by omega, ?_, ?_⟩
      · simp only
        rw [hsamples, List.drop_drop]
      · rw [Nat.cast_add, add_comm (dropped : ℚ), ← add_assoc, sub_add_cancel]
        exact (add_right_comm _ _ _).trans htotal
    · rw [List.range'_eq_map_range, List.map_map]
      refine List.map_congr_left fun i _ => ?_
      rw [hposition, ← add_mul, ← Nat.cast_add]
      rfl

/-! ## All chunks -/

theorem tracks_new (source target : UInt32) : Tracks (new source target) [] 0 := by
  have hposition : (new source target : Resampler ℚ).position = 0 := ofIndex_eq 0
  exact ⟨hposition.ge, ⟨0, le_refl 0, rfl, by simp [hposition]⟩, by simp, by simp⟩

theorem reading_append {place : ℚ} {front : List Sample} (back : List Sample) (h : ⌊place⌋₊ + 1 < front.length) :
    reading (front ++ back) place = reading front place := by
  rw [reading, reading, List.getD_append _ _ _ _ (by omega), List.getD_append _ _ _ _ h]

theorem pushAll_tracks (hsource : 0 < r.source) (htarget : 0 < r.target) (h : Tracks r input count)
    (chunks : List (List Sample)) :
    (r.pushAll chunks).2.source = r.source ∧ (r.pushAll chunks).2.target = r.target ∧
    ∃ more, Tracks (r.pushAll chunks).2 (input ++ chunks.flatten) (count + more) ∧
      (r.pushAll chunks).1.flatten =
        (List.range' count more).map fun i : ℕ => reading (input ++ chunks.flatten) (i * r.step) := by
  induction chunks generalizing r input count with
  | nil =>
    rw [List.flatten_nil, List.append_nil]
    exact ⟨rfl, rfl, 0, h, rfl⟩
  | cons chunk chunks ih =>
    obtain ⟨-, hsource', htarget', more, htracks, hout⟩ := push_tracks hsource htarget h chunk
    have hstep : (r.push chunk).2.step = r.step := by rw [step, step, hsource', htarget']
    obtain ⟨hsource'', htarget'', more', htracks', hrest⟩ := ih (hsource' ▸ hsource) (htarget' ▸ htarget) htracks
    rw [List.append_assoc, Nat.add_assoc] at htracks'
    refine ⟨hsource''.trans hsource', htarget''.trans htarget', more + more', htracks', ?_⟩
    have hpush : (r.pushAll (chunk :: chunks)).1.flatten =
        (r.push chunk).1 ++ ((r.push chunk).2.pushAll chunks).1.flatten := rfl
    have hfirst : (r.push chunk).1 =
        (List.range' count more).map fun i : ℕ => reading (input ++ (chunk ++ chunks.flatten)) (i * r.step) := by
      rw [hout]
      refine List.map_congr_left fun i hi => ?_
      have hlt : ⌊i * r.step⌋₊ + 1 < (input ++ chunk).length :=
        hstep ▸ htracks.reached i (List.mem_range'_1.1 hi).2
      rw [← List.append_assoc, reading_append _ hlt]
    rw [hpush, hrest, hfirst, hstep, List.flatten_cons, List.append_assoc, ← List.map_append, List.range'_append_1]

/-! ## How many outputs -/

def place (source target : UInt32) (k : ℕ) : ℚ := k * source.toNat / target.toNat

def outputCount (source target : UInt32) (length : ℕ) : ℕ :=
  if length < 2 then 0 else ⌈((length : ℚ) - 1) * target.toNat / source.toNat⌉₊

theorem lt_outputCount {source target : UInt32} (hsource : 0 < source) (htarget : 0 < target) (length k : ℕ) :
    k < outputCount source target length ↔ ⌊place source target k⌋₊ + 1 < length := by
  have hs : (0 : ℚ) < source.toNat := Nat.cast_pos.2 (UInt32.lt_iff_toNat_lt.1 hsource)
  have ht : (0 : ℚ) < target.toNat := Nat.cast_pos.2 (UInt32.lt_iff_toNat_lt.1 htarget)
  have hplace : 0 ≤ place source target k := by
    rw [place]
    positivity
  rw [outputCount]
  split
  · next hshort => exact ⟨fun h => absurd h (Nat.not_lt_zero k), fun h => by omega⟩
  · next hlong =>
    have hpred : ((length : ℚ) - 1) = (length - 1 : ℕ) := by
      rw [Nat.cast_sub (by omega), Nat.cast_one]
    rw [Nat.lt_ceil, lt_div_iff₀ hs, ← Nat.lt_sub_iff_add_lt, Nat.floor_lt hplace, place, div_lt_iff₀ ht, hpred]

theorem Tracks.count_eq (hsource : 0 < r.source) (htarget : 0 < r.target) (h : Tracks r input count) :
    count = outputCount r.source r.target input.length := by
  have hplace (k : ℕ) : k * r.step = place r.source r.target k := by rw [step_eq htarget, place, mul_div_assoc]
  refine le_antisymm (not_lt.1 fun hlt => ?_) (not_lt.1 fun hlt => ?_)
  · have hreached := h.reached _ hlt
    rw [hplace, ← lt_outputCount hsource htarget] at hreached
    exact lt_irrefl _ hreached
  · have hreached := (lt_outputCount hsource htarget _ _).1 hlt
    have hsettled := h.settled
    rw [hplace] at hsettled
    omega

theorem pushAll_eq {source target : UInt32} (hsource : 0 < source) (htarget : 0 < target)
    (chunks : List (List Sample)) :
    ((new source target : Resampler ℚ).pushAll chunks).1.flatten =
      (List.range (outputCount source target chunks.flatten.length)).map fun k =>
        reading chunks.flatten (place source target k) := by
  obtain ⟨hsource', htarget', more, htracks, hout⟩ := pushAll_tracks hsource htarget (tracks_new source target) chunks
  have hcount := htracks.count_eq (hsource'.symm ▸ hsource) (htarget'.symm ▸ htarget)
  have hstep : (new source target : Resampler ℚ).step = source.toNat / target.toNat := step_eq htarget
  rw [hsource', htarget', Nat.zero_add, List.nil_append] at hcount
  rw [hout, List.nil_append, hcount, List.range_eq_range']
  refine List.map_congr_left fun k _ => ?_
  rw [hstep, place, mul_div_assoc]

/-! ## Binary positions -/

theorem holds_of_lt {n : ℕ} (h : n < 2 ^ 53) : Binary.Format.double.Holds (n / 128) := by
  refine ⟨⟨n, -7⟩, ?_, Binary.Format.round_eq_self h (by decide)⟩
  rw [Binary.Scaled.value, zpow_neg, div_eq_mul_inv]
  norm_num

theorem Tracks.exists_position (htarget : r.target = 16000) (hsource : 125 ∣ r.source.toNat) (h : Tracks r input count)
    (i : ℕ) : ∃ n : ℕ, r.position + i * r.step = n / 128 := by
  obtain ⟨dropped, -, -, hposition⟩ := h.pending_eq
  obtain ⟨units, hunits⟩ := hsource
  have hstep : r.step = units / 128 := by
    have hpos : 0 < r.target := by rw [htarget]; decide
    have hrate : r.target.toNat = 16000 := by rw [htarget]; rfl
    rw [step_eq hpos, hunits, hrate]
    push_cast
    ring
  have hbehind : 128 * dropped ≤ count * units := by
    have hle := h.position_nonneg
    rw [eq_sub_of_add_eq hposition, hstep] at hle
    have hle : (128 * dropped : ℚ) ≤ count * units := by linarith
    exact_mod_cast hle
  refine ⟨count * units - 128 * dropped + i * units, ?_⟩
  rw [eq_sub_of_add_eq hposition, hstep]
  push_cast [Nat.cast_sub hbehind]
  ring

/-- Every push ends, and the outputs of all chunks together are the curve through the whole input, read at the multiples
of the step and cut toward zero. At sixteen kilohertz and a source rate that is a multiple of 125, binary64 has every
position exactly. -/
theorem resamples_as_one_pass (source target : UInt32) (hsource : 0 < source) (htarget : 0 < target)
    (chunks : List (List Sample)) :
    (∀ chunk, ((new source target : Resampler ℚ).pushAll chunks).2.Ends chunk) ∧
    ((new source target : Resampler ℚ).pushAll chunks).1.flatten.map Int16.toInt =
      (List.range (outputCount source target chunks.flatten.length)).map
        (fun k => cut (curve chunks.flatten (place source target k))) ∧
    (∀ k < outputCount source target chunks.flatten.length, ⌊place source target k⌋₊ + 1 < chunks.flatten.length) ∧
    (∀ chunks' : List (List Sample), chunks'.flatten = chunks.flatten →
      ((new source target : Resampler ℚ).pushAll chunks').1.flatten =
        ((new source target : Resampler ℚ).pushAll chunks).1.flatten) ∧
    (target = 16000 → 125 ∣ source.toNat → ∀ i : ℕ, ∃ n : ℕ,
      ((new source target : Resampler ℚ).pushAll chunks).2.position +
        i * (new source target : Resampler ℚ).step = n / 128 ∧
      (n < 2 ^ 53 → Binary.Format.double.Holds (n / 128))) := by
  obtain ⟨hsource', htarget', more, htracks, -⟩ := pushAll_tracks hsource htarget (tracks_new source target) chunks
  refine ⟨fun chunk => ?_, ?_, fun k => (lt_outputCount hsource htarget _ k).1, fun chunks' h => ?_,
    fun hrate hdvd i => ?_⟩
  · exact (push_tracks (hsource'.symm ▸ hsource) (htarget'.symm ▸ htarget) htracks chunk).1
  · rw [pushAll_eq hsource htarget, List.map_map]
    refine List.map_congr_left fun k _ => toInt_reading _ ?_
    rw [place]
    positivity
  · rw [pushAll_eq hsource htarget, pushAll_eq hsource htarget, h]
  · obtain ⟨n, hn⟩ := htracks.exists_position (htarget'.trans hrate) (by rwa [hsource']) i
    rw [step, hsource', htarget'] at hn
    exact ⟨n, hn, holds_of_lt⟩

theorem resamples_as_one_pass_past_chunk :
    ((new 48000 16000 : Resampler ℚ).pushAll [[10, 20], [], [30, 40], [50], [60]]).1.flatten.map Int16.toInt =
      [10, 40] := by
  have hcount : outputCount 48000 16000 6 = 2 := by
    rw [outputCount, if_neg (by decide), Nat.ceil_eq_iff (by decide)]
    simp
    norm_num
  have hfirst : place 48000 16000 0 = (0 : ℕ) := by simp [place]
  have hsecond : place 48000 16000 1 = (3 : ℕ) := by
    have hsource : (48000 : UInt32).toNat = 48000 := rfl
    have htarget : (16000 : UInt32).toNat = 16000 := rfl
    rw [place, hsource, htarget]
    norm_num
  have hpass := (resamples_as_one_pass 48000 16000 (by decide) (by decide) [[10, 20], [], [30, 40], [50], [60]]).2.1
  have hlength : ([[10, 20], [], [30, 40], [50], [60]] : List (List Sample)).flatten.length = 6 := rfl
  have hrange : List.range 2 = [0, 1] := rfl
  rw [hpass, hlength, hcount, hrange, List.map_cons, List.map_singleton, hfirst, hsecond, cut_curve_natCast,
    cut_curve_natCast]
  rfl

end Resampler

end Pcm

end Playout
