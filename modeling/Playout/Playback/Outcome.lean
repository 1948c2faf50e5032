import Playout.Error
import Playout.Metrics.Basic

/-!
# How a playback ends

A playback that ran reports the samples it delivered, whether it reached the end of its source or was
stopped. Being stopped is no failure.
-/

namespace Playout

/-- How a playback ended that did not fail, with the samples it delivered. -/
inductive Outcome where
  | completed (samples : Nat)
  | cancelled (samples : Nat)
deriving DecidableEq, Repr

abbrev Ending := Except PlaybackError Outcome

/-- Counts the end of a playback, with its duration. -/
def Counters.countEnding (m : Counters) (ending : Ending) : Counters :=
  let m := { m with playbacks := m.playbacks + 1 }
  match ending with
  | .ok (.completed _) => { m with completed := m.completed + 1 }
  | .ok (.cancelled _) => { m with cancelled := m.cancelled + 1 }
  | .error _ => { m with failed := m.failed + 1 }

end Playout
