import Mathlib
import Playout.Proofs.Session.Deeds
import Playout.Proofs.System.Closed

/-!
# Pushes of a service

The pushes that go on in a service are pushes as `Push.Progress` has them: each of their steps finds the session as some
run that came before has left it.
-/

namespace Playout.System

variable {config : Config} {moves : List Move} {i n : Nat}

/-- A session as it was at some time in a run. -/
def Saw (config : Config) (moves : List Move) (n : Nat) (s : Session) : Prop :=
  ∃ before, before <+: moves ∧ ((System.new config).run before).service.sessions[n]? = some s

theorem Saw.append {s : Session} (h : Saw config moves n s) (more : List Move) : Saw config (moves ++ more) n s := by
  obtain ⟨before, hfront, hs⟩ := h
  exact ⟨before, hfront.trans (List.prefix_append _ _), hs⟩

theorem frameSamples_of_run {s : Session} (hs : ((System.new config).run moves).service.sessions[n]? = some s) :
    s.frameSamples = config.frameSamples :=
  (reachable_of_run (studio_of_session hs)).onCourse.frameSamples

theorem push_of_run {p : Push} (hi : ((System.new config).run moves).errands[i]? = some (n, .push p)) :
    ∃ s name pcm found, s.frameSamples = config.frameSamples ∧ ((Push.Progress.new s name pcm).run found).push = p ∧
      ∀ moment ∈ found, Saw config moves n moment.session := by
  induction moves using List.reverseRecOn generalizing p with
  | nil => cases hi
  | append_singleton moves m ih =>
    rw [run_concat] at hi
    rcases errand_of_step m hi with hi | ⟨-, s, hs, hnew⟩ | ⟨e, s₁, s', m', cue, hi, hs, hstep⟩
    · obtain ⟨s, name, pcm, found, hframe, hp, hsaw⟩ := ih hi
      exact ⟨s, name, pcm, found, hframe, hp, fun moment hmem => (hsaw moment hmem).append [m]⟩
    · cases hnew with
      | push name pcm => exact ⟨s, name, pcm, [], frameSamples_of_run hs, rfl, by simp⟩
    · obtain ⟨_, _, r, -, heq, -⟩ | ⟨p₀, _, rfl, heq, hp₀⟩ := Errand.step_cases hstep
      · rcases r with o | result <;> cases heq
      · cases heq
        obtain ⟨s, name, pcm, found, hframe, rfl, hsaw⟩ := ih hi
        let last : Push.Moment := ⟨s₁, ((System.new config).run moves).service.counters, cue⟩
        refine ⟨s, name, pcm, found ++ [last], hframe, ?_, ?_⟩
        · rw [Push.Progress.run, List.foldl_concat, ← Push.Progress.run, Push.Progress.step, hp₀]
        · intro moment hmem
          rcases List.mem_append.1 hmem with hmem | hmem
          · exact (hsaw moment hmem).append [m]
          · rw [List.mem_singleton.1 hmem]
            exact ⟨moves, List.prefix_append _ _, hs⟩

end Playout.System
