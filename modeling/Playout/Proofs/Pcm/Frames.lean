import Mathlib
import Playout.Pcm.Frames

/-!
# Cutting a growing run into frames

A run that arrives bit by bit is cut as if it had arrived at once: the complete frames of the first part stand
first, and what is behind them goes in front of the rest (`wholeFrames_append`, `frameRemainder_append`). The
pieces of a run are its complete frames and behind them what is left (`pieces_eq`), so frames cut early are
the first pieces of the whole (`wholeFrames_prefix_pieces`).
-/

namespace Playout.Pcm

variable {α : Type} {size : Nat}

/-! ## One frame -/

theorem wholeFrames_of_le {items : List α} (hsize : 0 < size) (h : size ≤ items.length) :
    wholeFrames size items = items.take size :: wholeFrames size (items.drop size) := by
  rw [wholeFrames, dif_pos ⟨hsize, List.length_take_of_le h⟩]

theorem wholeFrames_of_lt {items : List α} (h : items.length < size) : wholeFrames size items = [] := by
  rw [wholeFrames, dif_neg]
  rintro ⟨-, hlen⟩
  rw [List.length_take] at hlen
  omega

theorem frameRemainder_of_le {items : List α} (hsize : 0 < size) (h : size ≤ items.length) :
    frameRemainder size items = frameRemainder size (items.drop size) := by
  have hdiv : items.length / size = (items.length - size) / size + 1 := by
    rw [Nat.div_eq_sub_div hsize h]
  rw [frameRemainder, frameRemainder, List.drop_drop, List.length_drop, hdiv, Nat.add_mul, Nat.one_mul,
    Nat.add_comm]

theorem frameRemainder_of_lt {items : List α} (h : items.length < size) : frameRemainder size items = items := by
  rw [frameRemainder, Nat.div_eq_of_lt h, Nat.zero_mul, List.drop_zero]

theorem pieces_of_ne_nil {items : List α} (hsize : 0 < size) (h : items ≠ []) :
    pieces size items = items.take size :: pieces size (items.drop size) := by
  rw [pieces, dif_pos ⟨hsize, h⟩]

@[simp] theorem pieces_nil : pieces size ([] : List α) = [] := by
  rw [pieces, dif_neg]
  simp

theorem frame_induction {motive : List α → Prop} (hsize : 0 < size)
    (short : ∀ items, items.length < size → motive items)
    (frame : ∀ items, size ≤ items.length → motive (items.drop size) → motive items) (items : List α) :
    motive items := by
  induction hn : items.length using Nat.strong_induction_on generalizing items with
  | _ n ih =>
    rcases Nat.lt_or_ge items.length size with h | h
    · exact short items h
    · exact frame items h (ih _ (by rw [List.length_drop]; omega) _ rfl)

/-! ## Cutting in parts -/

theorem wholeFrames_append (hsize : 0 < size) (first rest : List α) :
    wholeFrames size (first ++ rest) =
      wholeFrames size first ++ wholeFrames size (frameRemainder size first ++ rest) := by
  induction first using frame_induction hsize with
  | short first h => rw [wholeFrames_of_lt h, frameRemainder_of_lt h, List.nil_append]
  | frame first h ih =>
    have hlen : size ≤ (first ++ rest).length := by
      rw [List.length_append]
      omega
    rw [wholeFrames_of_le hsize hlen, wholeFrames_of_le hsize h, frameRemainder_of_le hsize h,
      List.take_append_of_le_length h, List.drop_append_of_le_length h, ih, List.cons_append]

theorem frameRemainder_append (hsize : 0 < size) (first rest : List α) :
    frameRemainder size (first ++ rest) = frameRemainder size (frameRemainder size first ++ rest) := by
  induction first using frame_induction hsize with
  | short first h => rw [frameRemainder_of_lt h]
  | frame first h ih =>
    have hlen : size ≤ (first ++ rest).length := by
      rw [List.length_append]
      omega
    rw [frameRemainder_of_le hsize hlen, List.drop_append_of_le_length h, ih, frameRemainder_of_le hsize h]

/-! ## All pieces -/

theorem pieces_eq (hsize : 0 < size) (items : List α) :
    pieces size items =
      wholeFrames size items ++
        (if frameRemainder size items = [] then [] else [frameRemainder size items]) := by
  induction items using frame_induction hsize with
  | short items h =>
    rw [wholeFrames_of_lt h, frameRemainder_of_lt h, List.nil_append]
    split
    · next hnil => rw [hnil, pieces_nil]
    · next hne =>
      rw [pieces_of_ne_nil hsize hne, List.take_of_length_le h.le, List.drop_of_length_le h.le, pieces_nil]
  | frame items h ih =>
    have hne : items ≠ [] := by
      rintro rfl
      simp only [List.length_nil] at h
      omega
    rw [pieces_of_ne_nil hsize hne, wholeFrames_of_le hsize h, frameRemainder_of_le hsize h, ih,
      List.cons_append]

theorem wholeFrames_prefix_pieces (hsize : 0 < size) (first rest : List α) :
    wholeFrames size first <+: pieces size (first ++ rest) := by
  rw [pieces_eq hsize, wholeFrames_append hsize, List.append_assoc]
  exact List.prefix_append _ _

theorem length_wholeFrames (hsize : 0 < size) (items : List α) :
    (wholeFrames size items).length = items.length / size := by
  induction items using frame_induction hsize with
  | short items h => rw [wholeFrames_of_lt h, Nat.div_eq_of_lt h, List.length_nil]
  | frame items h ih =>
    rw [wholeFrames_of_le hsize h, List.length_cons, ih, List.length_drop, ← Nat.div_eq_sub_div hsize h]

theorem getElem?_wholeFrames (hsize : 0 < size) (items : List α) {k : Nat} (h : k < items.length / size) :
    (wholeFrames size items)[k]? = some ((items.drop (k * size)).take size) := by
  induction items using frame_induction hsize generalizing k with
  | short items hshort =>
    rw [Nat.div_eq_of_lt hshort] at h
    exact absurd h (Nat.not_lt_zero k)
  | frame items hframe ih =>
    rw [wholeFrames_of_le hsize hframe]
    cases k with
    | zero => rw [List.getElem?_cons_zero, Nat.zero_mul, List.drop_zero]
    | succ k =>
      have hk : k < (items.drop size).length / size := by
        rw [List.length_drop]
        rw [Nat.div_eq_sub_div hsize hframe] at h
        omega
      rw [List.getElem?_cons_succ, ih hk, List.drop_drop, Nat.succ_mul, Nat.add_comm]

theorem wholeFrames_eq_take (hsize : 0 < size) (items : List α) :
    wholeFrames size items = (pieces size items).take (items.length / size) := by
  rw [pieces_eq hsize, ← length_wholeFrames hsize, List.take_left]

theorem flatten_pieces (hsize : 0 < size) (items : List α) : (pieces size items).flatten = items := by
  induction items using frame_induction hsize with
  | short items h =>
    rw [pieces_eq hsize, wholeFrames_of_lt h, frameRemainder_of_lt h]
    split <;> simp_all
  | frame items h ih =>
    have hne : items ≠ [] := by
      rintro rfl
      simp only [List.length_nil] at h
      omega
    rw [pieces_of_ne_nil hsize hne, List.flatten_cons, ih, List.take_append_drop]

theorem length_frameRemainder_lt (hsize : 0 < size) (items : List α) : (frameRemainder size items).length < size := by
  induction items using frame_induction hsize with
  | short items h => rwa [frameRemainder_of_lt h]
  | frame items h ih => rwa [frameRemainder_of_le hsize h]

theorem frameRemainder_of_dvd {items : List α} (h : size ∣ items.length) : frameRemainder size items = [] := by
  rw [frameRemainder, Nat.div_mul_cancel h, List.drop_length]

theorem length_of_mem_wholeFrames {items frame : List α} (hsize : 0 < size) (hmem : frame ∈ wholeFrames size items) :
    frame.length = size := by
  induction items using frame_induction hsize with
  | short items h =>
    rw [wholeFrames_of_lt h] at hmem
    cases hmem
  | frame items h ih =>
    rw [wholeFrames_of_le hsize h] at hmem
    obtain rfl | hmem := List.mem_cons.1 hmem
    · exact List.length_take_of_le h
    · exact ih hmem

theorem length_of_mem_pieces {items piece : List α} (hsize : 0 < size) (hmem : piece ∈ pieces size items) :
    piece.length ≤ size := by
  rw [pieces_eq hsize] at hmem
  obtain hwhole | hlast := List.mem_append.1 hmem
  · exact (length_of_mem_wholeFrames hsize hwhole).le
  · split at hlast
    · cases hlast
    · rw [List.mem_singleton.1 hlast]
      exact (length_frameRemainder_lt hsize items).le

theorem ne_nil_of_mem_pieces {items piece : List α} (hsize : 0 < size) (hmem : piece ∈ pieces size items) :
    piece ≠ [] := by
  rw [pieces_eq hsize] at hmem
  obtain hwhole | hlast := List.mem_append.1 hmem
  · have hlen := length_of_mem_wholeFrames hsize hwhole
    exact List.ne_nil_of_length_pos (hlen ▸ hsize)
  · split at hlast
    · cases hlast
    · next hne => rwa [List.mem_singleton.1 hlast]

/-- Only the last piece can be short. -/
theorem length_of_mem_dropLast_pieces {items piece : List α} (hsize : 0 < size)
    (hmem : piece ∈ (pieces size items).dropLast) : piece.length = size := by
  rw [pieces_eq hsize] at hmem
  split at hmem
  · rw [List.append_nil] at hmem
    exact length_of_mem_wholeFrames hsize (List.mem_of_mem_dropLast hmem)
  · rw [List.dropLast_concat] at hmem
    exact length_of_mem_wholeFrames hsize hmem

end Playout.Pcm
