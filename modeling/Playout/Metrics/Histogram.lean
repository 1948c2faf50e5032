/-!
# Histograms

A histogram counts values by the first of its bounds that they do not exceed, and adds them up. Values and
bounds are binary64 numbers. A value above every bound, or one that is not a number, is counted in the total
alone.
-/

namespace Playout

structure Histogram where
  /-- The bounds from below, each with the number of values that it is the first to hold. -/
  buckets : List (Float × Nat)
  count : Nat
  sum : Float

namespace Histogram

def new (bounds : List Float) : Histogram := ⟨bounds.map (·, 0), 0, 0⟩

/-- Counts one more value in the first bucket that holds it. -/
def raise (value : Float) : List (Float × Nat) → List (Float × Nat)
  | [] => []
  | (bound, n) :: rest =>
    if value ≤ bound then (bound, n + 1) :: rest else (bound, n) :: raise value rest

def observe (h : Histogram) (value : Float) : Histogram :=
  ⟨raise value h.buckets, h.count + 1, h.sum + value⟩

/-- The bounds, each with the number of values up to it; `below` were counted in front of them. -/
def cumulative (below : Nat) : List (Float × Nat) → List (Float × Nat)
  | [] => []
  | (bound, n) :: rest => (bound, below + n) :: cumulative (below + n) rest

end Histogram

end Playout
