import Mathlib
import Playout.Pcm.Conditioner
import Playout.Playback.Feed
import Playout.Proofs.Pcm.Frames
import Playout.Room.Basic

/-!
# What there is to play

A reel is everything that the decoder of one playback has to report: either it cannot open the source, or it
tells the parameters, one run of samples after another, and why it had to stop, if it had to. Every decoder
reports a reel (`exists_reel_of_feed`). What a playback has heard at a time is the beginning of a reel
(`Reel.Heard`), and what it can have cut into frames by then is the beginning of what there is to play
(`Reel.Heard.cut_prefix`).
-/

namespace Playout

namespace Pcm.Conditioner

variable {α : Type} [ReadPosition α]

theorem processAll_append (c : Conditioner α) (units units' : List (List Sample)) :
    c.processAll (units ++ units') =
      ((c.processAll units).1 ++ ((c.processAll units).2.processAll units').1,
        ((c.processAll units).2.processAll units').2) := by
  induction units generalizing c with
  | nil => rfl
  | cons unit units ih =>
    simp only [List.cons_append, processAll]
    rw [ih]

end Pcm.Conditioner

/-- What a decoder has to report in all. -/
inductive Reel where
  /-- The source cannot be opened. -/
  | refused (cause : PlaybackError)
  /-- The parameters, the runs of samples, and what ended the stream before its time, if anything did. -/
  | played (spec : StreamSpec) (runs : List (List Sample)) (failure : Option PlaybackError)

namespace Reel

def reports : Reel → List Event
  | refused cause => [.failed cause]
  | played spec runs failure => .spec spec :: (runs.map .samples ++ failure.toList.map .failed)

/-- What is heard of a reel: its reports, and that there are no more. -/
def cues (reel : Reel) : List (Option Event) := reel.reports.map some ++ [none]

/-- The samples of a reel behind the tail that conditions them. -/
def conditioned (gain : Pcm.Gain) : Reel → List Sample
  | refused _ => []
  | played spec runs _ =>
    ((Pcm.Conditioner.new spec canonicalRate gain : Pcm.Conditioner Float).processAll runs).1.flatten

end Reel

/-! ## Decoders -/

/-- A decoder reports runs of samples, and one failure at most, behind them. -/
theorem Decoder.exists_runs (d : Decoder) :
    ∃ (runs : List (List Sample)) (failure : Option PlaybackError),
      d.runs = runs.map .samples ++ failure.toList.map .failed := by
  induction hn : d.delivery.size using Nat.strong_induction_on generalizing d with
  | _ n ih =>
    rw [Decoder.runs]
    split
    · next samples d' hread =>
      obtain ⟨runs, failure, heq⟩ := ih _ (hn ▸ Decoder.read_size hread) d' rfl
      exact ⟨samples :: runs, failure, by rw [heq]; rfl⟩
    · exact ⟨[], none, rfl⟩
    · next cause _ _ => exact ⟨[], some cause, rfl⟩

/-- Whatever a decoder reports on a source is a reel. -/
theorem exists_reel_of_feed (format : AudioFormat) (source : Source.Delivery) (readChunkBytes : Nat) :
    ∃ reel : Reel, Event.feed format source readChunkBytes = reel.reports := by
  unfold Event.feed
  split
  · next cause _ => exact ⟨.refused cause, rfl⟩
  · next d _ =>
    obtain ⟨runs, failure, heq⟩ := d.exists_runs
    exact ⟨.played d.spec runs failure, by rw [heq]; rfl⟩

/-! ## The beginning of a reel -/

namespace Reel

variable {reel : Reel} {gain : Pcm.Gain} {heard : List (Option Event)} {tail : Option (Pcm.Conditioner Float)}
  {samples : List Sample} {final : Bool} {size : Nat}

/-- What a playback has heard while no failure was reported: the tail of the stream as it is then, what it has
made of the runs so far, and whether these were all. -/
inductive Heard (gain : Pcm.Gain) : Reel → List (Option Event) → Option (Pcm.Conditioner Float) → List Sample →
    Bool → Prop
  | nothing {reel : Reel} : Heard gain reel [] none [] false
  | within {spec : StreamSpec} {runs rest : List (List Sample)} {failure : Option PlaybackError}
      {outs : List (List Sample)} {tail : Pcm.Conditioner Float}
      (htail : (Pcm.Conditioner.new spec canonicalRate gain).processAll runs = (outs, tail)) :
      Heard gain (.played spec (runs ++ rest) failure) (some (.spec spec) :: runs.map (some ∘ .samples))
        (some tail) outs.flatten false
  | everything {spec : StreamSpec} {runs : List (List Sample)} {outs : List (List Sample)}
      {tail : Pcm.Conditioner Float}
      (htail : (Pcm.Conditioner.new spec canonicalRate gain).processAll runs = (outs, tail)) :
      Heard gain (.played spec runs none) (some (.spec spec) :: runs.map (some ∘ .samples) ++ [none]) (some tail)
        outs.flatten true

theorem cues_played (spec : StreamSpec) (runs rest : List (List Sample)) (failure : Option PlaybackError) :
    (played spec (runs ++ rest) failure).cues =
      (some (.spec spec) :: runs.map (some ∘ .samples)) ++
        (rest.map (some ∘ .samples) ++ failure.toList.map (some ∘ .failed) ++ [none]) := by
  simp [cues, reports]

theorem next_of_prefix {spec : StreamSpec} {runs rest : List (List Sample)} {failure : Option PlaybackError}
    {report : Option Event}
    (hp : some (.spec spec) :: runs.map (some ∘ .samples) ++ [report] <+: (played spec (runs ++ rest) failure).cues) :
    [report] <+: rest.map (some ∘ .samples) ++ failure.toList.map (some ∘ .failed) ++ [none] := by
  rw [cues_played] at hp
  exact (List.prefix_append_right_inj _).1 hp

namespace Heard

theorem not_failed (h : Heard gain reel heard tail samples final) (cause : PlaybackError) :
    some (.failed cause) ∉ heard := by
  cases h with
  | nothing => simp
  | within | everything => simp

theorem of_nil (h : Heard gain reel [] tail samples final) : samples = [] ∧ final = false := by
  generalize hheard : ([] : List (Option Event)) = heard at h
  cases h with
  | nothing => exact ⟨rfl, rfl⟩
  | within | everything => cases hheard

theorem spec (h : Heard gain reel heard tail samples false) {spec : StreamSpec}
    (hp : heard ++ [some (.spec spec)] <+: reel.cues) :
    samples = [] ∧ Heard gain reel (heard ++ [some (.spec spec)])
      (some (Pcm.Conditioner.new spec canonicalRate gain)) [] false := by
  cases h with
  | nothing =>
    refine ⟨rfl, ?_⟩
    cases reel with
    | refused cause => simp [cues, reports] at hp
    | played spec' runs failure =>
      obtain rfl : spec = spec' := by simpa [cues, reports] using hp
      exact @within gain spec [] runs failure [] _ rfl
  | @within spec' runs rest failure outs tail htail =>
    have hnext := next_of_prefix hp
    cases rest <;> cases failure <;> simp at hnext

theorem run (h : Heard gain reel heard tail samples false) {run : List Sample}
    (hp : heard ++ [some (.samples run)] <+: reel.cues) :
    ∃ tail₀, tail = some tail₀ ∧ Heard gain reel (heard ++ [some (.samples run)]) (some (tail₀.process run).2)
      (samples ++ (tail₀.process run).1) false := by
  cases h with
  | nothing =>
    cases reel with
    | refused cause => simp [cues, reports] at hp
    | played spec' runs failure => simp [cues, reports] at hp
  | @within spec runs rest failure outs tail htail =>
    refine ⟨tail, rfl, ?_⟩
    have hnext := next_of_prefix hp
    cases rest with
    | nil => cases failure <;> simp at hnext
    | cons run' rest =>
      obtain rfl : run = run' := by simpa using hnext
      have hmore : (Pcm.Conditioner.new spec canonicalRate gain : Pcm.Conditioner Float).processAll (runs ++ [run]) =
          (outs ++ [(tail.process run).1], (tail.process run).2) := by
        rw [Pcm.Conditioner.processAll_append, htail]
        rfl
      have hheard : Heard gain (.played spec ((runs ++ [run]) ++ rest) failure) _ _ _ false := within hmore
      simpa using hheard

theorem failed (h : Heard gain reel heard tail samples false) {cause : PlaybackError}
    (hp : heard ++ [some (.failed cause)] <+: reel.cues) : samples = reel.conditioned gain := by
  cases h with
  | nothing =>
    cases reel with
    | refused cause => rfl
    | played spec' runs failure => simp [cues, reports] at hp
  | @within spec runs rest failure outs tail htail =>
    have hnext := next_of_prefix hp
    cases rest with
    | nil => rw [List.append_nil, conditioned, htail]
    | cons run rest => simp at hnext

theorem last (h : Heard gain reel heard tail samples false) (hp : heard ++ [none] <+: reel.cues) :
    Heard gain reel (heard ++ [none]) tail samples true := by
  cases h with
  | nothing => cases reel <;> simp [cues, reports] at hp
  | @within spec runs rest failure outs tail htail =>
    have hnext := next_of_prefix hp
    cases rest with
    | nil =>
      cases failure with
      | none =>
        rw [List.append_nil]
        exact everything htail
      | some cause => simp at hnext
    | cons run rest => simp at hnext

theorem eq_conditioned (h : Heard gain reel heard tail samples true) : samples = reel.conditioned gain := by
  cases h with
  | everything htail => rw [conditioned, htail]

/-- What was made of the runs so far is the beginning of what there is to play. -/
theorem exists_rest (h : Heard gain reel heard tail samples final) :
    ∃ rest, reel.conditioned gain = samples ++ rest := by
  cases h with
  | nothing => exact ⟨_, rfl⟩
  | @within spec runs rest failure outs tail htail =>
    refine ⟨(tail.processAll rest).1.flatten, ?_⟩
    rw [conditioned, Pcm.Conditioner.processAll_append, htail, List.flatten_append]
  | everything htail => exact ⟨[], by rw [conditioned, htail, List.append_nil]⟩

end Heard

/-- The frames there are when this much was heard: the last, shorter one only at the end. -/
def cut (size : Nat) (samples : List Sample) (final : Bool) : List Frame :=
  if final then Pcm.pieces size samples else Pcm.wholeFrames size samples

theorem Heard.cut_prefix (hsize : 0 < size) (h : Heard gain reel heard tail samples final) :
    cut size samples final <+: Pcm.pieces size (reel.conditioned gain) := by
  unfold cut
  split
  · next hfinal =>
    subst hfinal
    rw [h.eq_conditioned]
  · obtain ⟨rest, heq⟩ := h.exists_rest
    rw [heq]
    exact Pcm.wholeFrames_prefix_pieces hsize samples rest

end Reel

end Playout
