/-!
# Cutting a run into frames

A run of items is cut into frames of a fixed size. `wholeFrames` keeps the complete frames,
`frameRemainder` is what is left behind them, and `pieces` keeps everything, its last piece possibly
shorter.
-/

namespace Playout.Pcm

variable {α : Type}

/-- The complete frames of `size` items, in order. -/
def wholeFrames (size : Nat) (items : List α) : List (List α) :=
  if _h : 0 < size ∧ (items.take size).length = size then
    items.take size :: wholeFrames size (items.drop size)
  else []
termination_by items.length
decreasing_by
  have := _h.2
  simp only [List.length_take, List.length_drop] at *
  omega

/-- The items behind the last complete frame. -/
def frameRemainder (size : Nat) (items : List α) : List α :=
  items.drop (items.length / size * size)

/-- The items cut into frames of `size`, the last one as long as what is left. -/
def pieces (size : Nat) (items : List α) : List (List α) :=
  if _h : 0 < size ∧ items ≠ [] then
    items.take size :: pieces size (items.drop size)
  else []
termination_by items.length
decreasing_by
  have := List.length_pos_iff.2 _h.2
  simp only [List.length_drop]
  omega

end Playout.Pcm
