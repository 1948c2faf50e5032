import Mathlib
import Playout.Proofs.Playback.Reel
import Playout.Proofs.Playback.Turn

/-!
# The course of a playback

How far a playback has come with its reel: what it has heard, which frames the room has accepted from it, and
what of the rest it has ready. While it goes on, the accepted frames and those at hand are all that can be cut
from what it has heard, and what is left behind them is pending (`Task.Streaming`). In whichever way it ends,
that says what was accepted in all (`Task.Settled`). Each step keeps this (`Task.Transition.course`).
-/

namespace Playout.Task

/-! ## Stages -/

/-- How a playback ends, from the stage on in which that is settled. -/
def Stage.outcome? : Stage → Option Ending
  | .closing ending | .silencing _ ending | .releasing ending | .retiring ending | .reporting ending
  | .ended ending => some ending
  | _ => none

/-- The room has accepted the frame at hand, and it is not counted yet. -/
def Stage.accepted : Stage → Bool
  | .writing _ true | .counting => true
  | _ => false

/-- Nothing was heard from the decoder yet. -/
def Stage.silent : Stage → Bool
  | .starting | .waiting | .fetching => true
  | _ => false

def Stage.idle : Stage → Bool
  | .starting | .waiting | .fetching | .listening => true
  | _ => false

/-- The frames at hand that the room has not accepted. -/
def upcoming (t : Task) : List Frame := if t.stage.accepted then t.todo.tail else t.todo

/-- The frame that the room has accepted and the playback has not counted. -/
def uncounted (t : Task) : List Frame := if t.stage.accepted then t.todo.take 1 else []

def sampleCount (frames : List Frame) : Nat := (frames.map List.length).sum

theorem outcome_of_ending {t : Task} {ending : Ending} (h : t.ending? = some ending) :
    t.stage.outcome? = some ending := by
  unfold ending? at h
  split at h
  · next hstage =>
    rw [hstage]
    exact h
  · cases h

theorem sampleCount_append (frames frames' : List Frame) :
    sampleCount (frames ++ frames') = sampleCount frames + sampleCount frames' := by
  simp [sampleCount]

/-! ## The course -/

section

variable (size : Nat) (reel : Reel) (heard : List (Option Event)) (written : List Frame)

structure Streaming (t : Task) (samples : List Sample) : Prop where
  source : reel.Heard t.volume heard t.conditioner samples t.final
  frames : written ++ t.upcoming = Reel.cut size samples t.final
  pending : t.pending = if t.final then [] else Pcm.frameRemainder size samples
  delivered : t.delivered + sampleCount t.uncounted = sampleCount written
  silent : t.stage.silent = true → heard = []
  idle : t.stage.idle = true → t.todo = [] ∧ t.final = false

/-- What a playback has delivered, by the way it ends. -/
inductive Settled (gain : Pcm.Gain) : Ending → Prop
  | completed (hframes : written = Pcm.pieces size (reel.conditioned gain)) :
      Settled gain (.ok (.completed (reel.conditioned gain).length))
  | cancelled (hframes : written <+: Pcm.pieces size (reel.conditioned gain)) :
      Settled gain (.ok (.cancelled (sampleCount written)))
  | reported {cause : PlaybackError} (hframes : written = Pcm.wholeFrames size (reel.conditioned gain))
      (hheard : ∀ cause', some (.failed cause') ∈ heard ↔ cause' = cause) : Settled gain (.error cause)
  | failed {cause : PlaybackError} (hframes : written <+: Pcm.pieces size (reel.conditioned gain))
      (hheard : ∀ cause', some (.failed cause') ∉ heard) (hcause : ∀ reason, cause ≠ .internal reason) :
      Settled gain (.error cause)

/-- A playback that goes on, or whose end is settled. -/
inductive Course (t : Task) : Prop
  | streaming {samples : List Sample} (hstage : t.stage.outcome? = none)
      (hs : Streaming size reel heard written t samples) : Course t
  | settled {ending : Ending} (hstage : t.stage.outcome? = some ending)
      (hs : Settled size reel heard written t.volume ending) : Course t

end

variable {size : Nat} {reel : Reel} {heard : List (Option Event)} {written : List Frame} {samples : List Sample}
  {s s' : Session} {m m' : Counters} {t t' : Task} {cue : Cue}

theorem Course.streaming_of (h : Course size reel heard written t) (hstage : t.stage.outcome? = none) :
    ∃ samples, Streaming size reel heard written t samples := by
  cases h with
  | streaming _ hs => exact ⟨_, hs⟩
  | settled hstage' => cases hstage.symm.trans hstage'

theorem Course.settled_of {ending : Ending} (h : Course size reel heard written t)
    (hstage : t.stage.outcome? = some ending) : Settled size reel heard written t.volume ending := by
  cases h with
  | streaming hstage' => cases hstage.symm.trans hstage'
  | settled hstage' hs =>
    obtain rfl := Option.some.inj (hstage.symm.trans hstage')
    exact hs

theorem Course.new (config : Config) (slot : Nat) (url : Url) (request : Request) (hsize : 0 < size) (reel : Reel) :
    Course size reel [] [] (Task.new config slot url request) := by
  apply Course.streaming rfl
  refine ⟨.nothing, ?_, ?_, rfl, fun _ => rfl, fun _ => ⟨rfl, rfl⟩⟩
  · exact (Pcm.wholeFrames_of_lt hsize).symm
  · exact (Pcm.frameRemainder_of_lt hsize).symm

namespace Streaming

theorem of_busy (hsilent : t.stage.silent = false) (hidle : t.stage.idle = false)
    (source : reel.Heard t.volume heard t.conditioner samples t.final)
    (frames : written ++ t.upcoming = Reel.cut size samples t.final)
    (pending : t.pending = if t.final then [] else Pcm.frameRemainder size samples)
    (delivered : t.delivered + sampleCount t.uncounted = sampleCount written) :
    Streaming size reel heard written t samples := by
  refine ⟨source, frames, pending, delivered, ?_, ?_⟩
  · intro hstage
    cases hsilent.symm.trans hstage
  · intro hstage
    cases hidle.symm.trans hstage

theorem written_prefix (h : Streaming size reel heard written t samples) (hsize : 0 < size) :
    written <+: Pcm.pieces size (reel.conditioned t.volume) := by
  have hcut := h.source.cut_prefix hsize
  rw [← h.frames] at hcut
  exact (List.prefix_append _ _).trans hcut

theorem stopped (h : Streaming size reel heard written t samples) (hsize : 0 < size)
    (haccepted : t.stage.accepted = false) : Course size reel heard written t.stopped := by
  have hdelivered : t.delivered = sampleCount written := by
    rw [← h.delivered]
    simp [uncounted, haccepted, sampleCount]
  apply Course.settled rfl
  rw [hdelivered]
  exact .cancelled (h.written_prefix hsize)

theorem failed (h : Streaming size reel heard written t samples) (hsize : 0 < size) {cause : PlaybackError}
    (hcause : ∀ reason, cause ≠ .internal reason) : Course size reel heard written (t.failed cause) :=
  .settled rfl (.failed (h.written_prefix hsize) h.source.not_failed hcause)

/-- All that there is was accepted and counted. -/
theorem completed_of_pieces (hsize : 0 < size) {tail : Option (Pcm.Conditioner Float)}
    (hsource : reel.Heard t.volume heard tail samples true) (hwritten : written = Pcm.pieces size samples)
    (hdelivered : t.delivered = sampleCount written) : Course size reel heard written t.completed := by
  rw [hsource.eq_conditioned] at hwritten
  have hcount : t.delivered = (reel.conditioned t.volume).length := by
    rw [hdelivered, hwritten, sampleCount, ← List.length_flatten, Pcm.flatten_pieces hsize]
  apply Course.settled rfl
  rw [hcount]
  exact .completed hwritten

theorem written_of_silent (h : Streaming size reel heard written t samples) (hsize : 0 < size)
    (hstage : t.stage.silent = true) : written = [] := by
  obtain rfl := h.silent hstage
  have hframes := h.frames
  obtain ⟨rfl, hfinal⟩ := h.source.of_nil
  rw [hfinal, Reel.cut, if_neg (by simp), Pcm.wholeFrames_of_lt hsize] at hframes
  exact (List.append_eq_nil_iff.1 hframes).1

theorem onward (h : Streaming size reel heard written t samples) (hvolume : t'.volume = t.volume)
    (hconditioner : t'.conditioner = t.conditioner) (hpending : t'.pending = t.pending) (htodo : t'.todo = t.todo)
    (hfinal : t'.final = t.final) (hdelivered : t'.delivered = t.delivered)
    (haccepted : t'.stage.accepted = t.stage.accepted) (hsilent : t'.stage.silent = true → heard = [])
    (hidle : t'.stage.idle = true → t.todo = [] ∧ t.final = false) :
    Streaming size reel heard written t' samples where
  source := by
    rw [hvolume, hconditioner, hfinal]
    exact h.source
  frames := by
    rw [upcoming, haccepted, htodo, hfinal]
    exact h.frames
  pending := by
    rw [hpending, hfinal]
    exact h.pending
  delivered := by
    rw [hdelivered, uncounted, haccepted, htodo]
    exact h.delivered
  silent := hsilent
  idle := by
    rw [htodo, hfinal]
    exact hidle

theorem listen (h : Streaming size reel heard written t samples) (haccepted : t.stage.accepted = false)
    (hidle : t.todo = [] ∧ t.final = false) : Course size reel heard written (t.enter .listening) := by
  refine .streaming rfl (h.onward rfl rfl rfl rfl rfl rfl haccepted.symm ?_ fun _ => hidle)
  intro hstage
  cases hstage

theorem approach (h : Streaming size reel heard written t samples) {stage : Stage}
    (haccepted : stage.accepted = t.stage.accepted) (hout : stage.outcome? = none) (hsilent : stage.silent = false)
    (hidle : stage.idle = false) (track : Option Handle) (pacer : Option Pacer) :
    Course size reel heard written { t with track, pacer, stage } := by
  refine .streaming hout (h.onward rfl rfl rfl rfl rfl rfl haccepted ?_ ?_)
  · intro hstage
    cases hsilent.symm.trans hstage
  · intro hstage
    cases hidle.symm.trans hstage

end Streaming

/-! ## What is noted -/

theorem heardBy_of_notes (h : t.stage = .listening → s.isCancelled t.slot = true) (i : Nat) :
    (t.notes s cue t').filterMap (Note.heardBy i) = [] := by
  unfold notes
  split
  · split <;> rfl
  · split <;> rfl
  · next hstage => rw [h hstage]; rfl
  · split <;> rfl
  · split <;> rfl
  · rfl

theorem frameBy_of_notes (h : (∀ suspended, t.stage ≠ .writing suspended false) ∨ t'.stage.accepted = false)
    (i : Nat) : (t.notes s cue t').filterMap (Note.frameBy i) = [] := by
  unfold notes
  split
  · split <;> rfl
  · split <;> rfl
  · split <;> rfl
  · split <;> rfl
  · next hstage =>
    split
    · next hstage' _ _ => simp [hstage, hstage', Stage.accepted] at h
    · rfl
  · rfl

/-! ## Steps -/

namespace Streaming

/-- What holds while the playback listens: everything it has cut is delivered and counted. -/
theorem of_listening (h : Streaming size reel heard written t samples) (hstage : t.stage = .listening) :
    t.todo = [] ∧ t.final = false ∧ reel.Heard t.volume heard t.conditioner samples false ∧
      written = Pcm.wholeFrames size samples ∧ t.pending = Pcm.frameRemainder size samples ∧
      t.delivered = sampleCount written := by
  obtain ⟨htodo, hfinal⟩ := h.idle (by rw [hstage]; rfl)
  have hsource := h.source
  have hframes := h.frames
  have hpending := h.pending
  have hdelivered := h.delivered
  simp only [upcoming, uncounted, hstage, Stage.accepted, htodo, hfinal, Reel.cut, List.append_nil,
    Bool.false_eq_true, if_false] at hsource hframes hpending hdelivered
  exact ⟨htodo, hfinal, hsource, hframes, hpending, hdelivered⟩

theorem hear (h : Streaming size reel heard written t samples) (hsize : 0 < size) (hstage : t.stage = .listening)
    {event : Event} (hp : heard ++ [some event] <+: reel.cues) :
    Course size reel (heard ++ [some event]) written (t.hear size event) := by
  obtain ⟨htodo, hfinal, hsource, hframes, hpending, hdelivered⟩ := h.of_listening hstage
  cases event with
  | spec spec =>
    obtain ⟨rfl, hsource'⟩ := hsource.spec hp
    have hs : Streaming size reel (heard ++ [some (.spec spec)]) written (t.hear size (.spec spec)) [] := by
      refine ⟨?_, ?_, ?_, hdelivered, ?_, fun _ => ⟨htodo, hfinal⟩⟩
      · show reel.Heard t.volume _ _ [] t.final
        rw [hfinal]
        exact hsource'
      · show written ++ t.todo = Reel.cut size [] t.final
        rw [htodo, hfinal, List.append_nil, hframes]
        rfl
      · show t.pending = if t.final then [] else _
        rw [hfinal, hpending]
        rfl
      · intro hsilent
        cases hsilent
    exact .streaming rfl hs
  | samples run =>
    obtain ⟨tail, htail, hsource'⟩ := hsource.run hp
    rcases hprocess : tail.process run with ⟨mono, tail'⟩
    rw [hprocess] at hsource'
    have hhear : t.hear size (.samples run) =
        { t with
          conditioner := some tail'
          todo := Pcm.wholeFrames size (t.pending ++ mono)
          pending := Pcm.frameRemainder size (t.pending ++ mono)
          stage := .delivering } := by
      simp only [Task.hear, htail, hprocess]
    have hs : Streaming size reel (heard ++ [some (.samples run)]) written (t.hear size (.samples run))
        (samples ++ mono) := by
      rw [hhear]
      refine of_busy rfl rfl ?_ ?_ ?_ hdelivered
      · show reel.Heard t.volume _ _ _ t.final
        rw [hfinal]
        exact hsource'
      · show written ++ Pcm.wholeFrames size (t.pending ++ mono) = Reel.cut size (samples ++ mono) t.final
        rw [hpending, hframes, hfinal, ← Pcm.wholeFrames_append hsize]
        rfl
      · show Pcm.frameRemainder size (t.pending ++ mono) = if t.final then [] else _
        rw [hpending, hfinal, ← Pcm.frameRemainder_append hsize]
        rfl
    have hout : (t.hear size (.samples run)).stage.outcome? = none := by
      rw [hhear]
      rfl
    exact .streaming hout hs
  | failed cause =>
    have hall := hsource.failed hp
    apply Course.settled rfl
    apply Settled.reported
    · rw [hframes, hall]
      rfl
    · intro cause'
      have hnot := hsource.not_failed cause'
      simp [hnot]

theorem flush (h : Streaming size reel heard written t samples) (hsize : 0 < size) (hstage : t.stage = .listening)
    (hp : heard ++ [none] <+: reel.cues) : Course size reel (heard ++ [none]) written t.flush := by
  obtain ⟨-, -, hsource, hframes, hpending, hdelivered⟩ := h.of_listening hstage
  have hlast := hsource.last hp
  have hpieces := Pcm.pieces_eq hsize samples
  rw [← hframes, ← hpending] at hpieces
  unfold Task.flush
  split
  · next hnil =>
    rw [if_pos hnil, List.append_nil] at hpieces
    exact completed_of_pieces hsize hlast hpieces.symm hdelivered
  · next hne =>
    rw [if_neg hne] at hpieces
    exact .streaming rfl (of_busy rfl rfl hlast hpieces.symm rfl hdelivered)

theorem receive (h : Streaming size reel heard written t samples) (hsize : 0 < size) (hstage : t.stage = .fetching)
    (result : Except String Head) : Course size reel heard written (t.receive result) := by
  have hidle := h.idle (by rw [hstage]; rfl)
  unfold Task.receive
  split
  · exact h.failed hsize (by simp)
  · split
    · exact h.failed hsize (by simp)
    · split
      · exact h.failed hsize (by simp)
      · exact h.listen (by rw [hstage]; rfl) hidle

theorem delivered_all (h : Streaming size reel heard written t samples) (hsize : 0 < size)
    (hstage : t.stage = .delivering) (htodo : t.todo = []) :
    Course size reel heard written (if t.final then t.completed else t.enter .listening) := by
  have hframes := h.frames
  have hdelivered := h.delivered
  simp only [upcoming, uncounted, hstage, Stage.accepted, htodo, List.append_nil, Bool.false_eq_true,
    if_false] at hframes hdelivered
  split
  · next hfinal =>
    have hsource := h.source
    rw [hfinal] at hsource hframes
    exact completed_of_pieces hsize hsource hframes hdelivered
  · next hfinal => exact h.listen (by rw [hstage]; rfl) ⟨htodo, eq_false_of_ne_true hfinal⟩

theorem withTrack (h : Streaming size reel heard written t samples) (haccepted : t.stage.accepted = false)
    (k : Handle) : Course size reel heard written (t.withTrack k) := by
  have honward : ∀ stage : Stage, stage.accepted = false → stage.outcome? = none → stage.silent = false →
      stage.idle = false → Course size reel heard written { t with track := some k, stage } := by
    intro stage hacc hout hsilent hidle
    exact h.approach (hacc.trans haccepted.symm) hout hsilent hidle (some k) t.pacer
  unfold Task.withTrack
  split
  · exact honward _ rfl rfl rfl rfl
  · exact honward _ rfl rfl rfl rfl

theorem recorded (h : Streaming size reel heard written t samples) {suspended : Bool}
    (hstage : t.stage = .writing suspended false) {frame : Frame} {rest : List Frame} (htodo : t.todo = frame :: rest) :
    Course size reel heard (written ++ [frame]) (t.enter (.writing false true)) := by
  have hframes := h.frames
  have hdelivered := h.delivered
  simp only [upcoming, uncounted, hstage, Stage.accepted, htodo, Bool.false_eq_true, if_false] at hframes hdelivered
  apply Course.streaming rfl
  refine of_busy rfl rfl h.source ?_ h.pending ?_
  · simp only [upcoming, enter, Stage.accepted, htodo, if_true, List.tail_cons]
    rw [List.append_assoc, List.singleton_append, hframes]
  · simp only [uncounted, enter, Stage.accepted, htodo, if_true, sampleCount_append]
    rw [← hdelivered]
    simp [sampleCount]

theorem counted (h : Streaming size reel heard written t samples) (hstage : t.stage = .counting) {frame : Frame}
    {rest : List Frame} (htodo : t.todo = frame :: rest) :
    Course size reel heard written
      { t with todo := rest, delivered := t.delivered + frame.length, stage := .delivering } := by
  have hframes := h.frames
  have hdelivered := h.delivered
  simp only [upcoming, uncounted, hstage, Stage.accepted, htodo, if_true, List.tail_cons] at hframes hdelivered
  apply Course.streaming rfl
  refine of_busy rfl rfl h.source hframes h.pending ?_
  rw [← hdelivered]
  simp [uncounted, Stage.accepted, sampleCount]

end Streaming

/-- A step of a playback keeps its course, if what it hears goes on with the reel. -/
theorem Transition.course (ht : Transition s m t cue t' s' m') (hsize : 0 < s.frameSamples)
    (hc : Course s.frameSamples reel heard written t)
    (hp : heard ++ (t.notes s cue t').filterMap (Note.heardBy t.slot) <+: reel.cues) :
    Course s.frameSamples reel (heard ++ (t.notes s cue t').filterMap (Note.heardBy t.slot))
      (written ++ (t.notes s cue t').filterMap (Note.frameBy t.slot)) t' := by
  -- a step that hears nothing and writes nothing
  have hquiet : (t.stage = .listening → s.isCancelled t.slot = true) →
      ((∀ suspended, t.stage ≠ .writing suspended false) ∨ t'.stage.accepted = false) →
      Course s.frameSamples reel heard written t' →
      Course s.frameSamples reel (heard ++ (t.notes s cue t').filterMap (Note.heardBy t.slot))
        (written ++ (t.notes s cue t').filterMap (Note.frameBy t.slot)) t' := by
    intro hl ha h
    rw [heardBy_of_notes hl, frameBy_of_notes ha, List.append_nil, List.append_nil]
    exact h
  have hstreaming := hc.streaming_of
  cases ht with
  | quit hstage | quitWaiting hstage =>
    obtain ⟨samples, hs⟩ := hstreaming (by rw [hstage]; rfl)
    obtain rfl := hs.written_of_silent hsize (by rw [hstage]; rfl)
    exact hquiet (by simp [hstage]) (.inr rfl) (.settled rfl (.cancelled List.nil_prefix))
  | ask hstage | granted hstage =>
    obtain ⟨samples, hs⟩ := hstreaming (by rw [hstage]; rfl)
    have hheard := hs.silent (by rw [hstage]; rfl)
    have hidle := hs.idle (by rw [hstage]; rfl)
    have honward : ∀ stage : Stage, stage.outcome? = none → stage.accepted = t.stage.accepted →
        Course s.frameSamples reel heard written (t.enter stage) := fun stage hout hacc =>
      .streaming hout (hs.onward rfl rfl rfl rfl rfl rfl hacc (fun _ => hheard) fun _ => hidle)
    refine hquiet (by simp [hstage]) (.inl (by simp [hstage])) (honward _ ?_ ?_) <;>
      first | rfl | (rw [hstage]; rfl) | (split <;> first | rfl | (rw [hstage]; rfl))
  | stopFetching hstage hcancelled | stopListening hstage hcancelled | stopDelivering hstage _ hcancelled
  | stopPublishing hstage hcancelled | stopHolding hstage hcancelled | stopWriting hstage hcancelled =>
    obtain ⟨samples, hs⟩ := hstreaming (by rw [hstage]; rfl)
    exact hquiet (fun _ => hcancelled) (.inr rfl) (hs.stopped hsize (by rw [hstage]; rfl))
  | answered hstage =>
    obtain ⟨samples, hs⟩ := hstreaming (by rw [hstage]; rfl)
    exact hquiet (by simp [hstage]) (.inl (by simp [hstage])) (hs.receive hsize hstage _)
  | @heard event hstage hlive =>
    obtain ⟨samples, hs⟩ := hstreaming (by rw [hstage]; rfl)
    have hnotes : t.notes s (.event event) (t.hear s.frameSamples event) = [.heard t.slot (some event)] := by
      simp only [notes, hstage, hlive]
    rw [hnotes] at hp ⊢
    simp only [List.filterMap_cons, List.filterMap_nil, Note.heardBy, Note.frameBy, if_true, List.append_nil] at hp ⊢
    exact hs.hear hsize hstage hp
  | exhausted hstage hlive =>
    obtain ⟨samples, hs⟩ := hstreaming (by rw [hstage]; rfl)
    have hnotes : t.notes s .over t.flush = [.heard t.slot none] := by
      simp only [notes, hstage, hlive]
    rw [hnotes] at hp ⊢
    simp only [List.filterMap_cons, List.filterMap_nil, Note.heardBy, Note.frameBy, if_true, List.append_nil] at hp ⊢
    exact hs.flush hsize hstage hp
  | delivered hstage htodo =>
    obtain ⟨samples, hs⟩ := hstreaming (by rw [hstage]; rfl)
    exact hquiet (by simp [hstage]) (.inl (by simp [hstage])) (hs.delivered_all hsize hstage htodo)
  | seek hstage | resumePublishing hstage | obtaining hstage | due hstage | suspend hstage | resume hstage
  | written hstage =>
    obtain ⟨samples, hs⟩ := hstreaming (by rw [hstage]; rfl)
    apply hquiet (by simp [hstage]) (by simp [hstage, Stage.accepted, enter])
    exact hs.approach (by rw [hstage]; rfl) rfl rfl rfl t.track t.pacer
  | reuse hstage | obtained hstage =>
    obtain ⟨samples, hs⟩ := hstreaming (by rw [hstage]; rfl)
    exact hquiet (by simp [hstage]) (.inl (by simp [hstage])) (hs.withTrack (by rw [hstage]; rfl) _)
  | booked hstage =>
    obtain ⟨samples, hs⟩ := hstreaming (by rw [hstage]; rfl)
    refine hquiet (by simp [hstage]) (.inl (by simp [hstage])) ?_
    split
    · exact hs.approach (by rw [hstage]; rfl) rfl rfl rfl t.track _
    · exact hs.approach (by rw [hstage]; rfl) rfl rfl rfl t.track _
  | unobtained hstage | unwritten hstage =>
    obtain ⟨samples, hs⟩ := hstreaming (by rw [hstage]; rfl)
    exact hquiet (by simp [hstage]) (.inr rfl) (hs.failed hsize (by simp))
  | @recorded suspended k frame rest hstage hlive htrack htodo hopen =>
    obtain ⟨samples, hs⟩ := hstreaming (by rw [hstage]; rfl)
    have hnotes : t.notes s .recorded (t.enter (.writing false true)) = [.recorded (some t.slot) k frame] := by
      simp only [notes, hstage, enter, htrack, htodo]
    rw [hnotes]
    simp only [List.filterMap_cons, List.filterMap_nil, Note.heardBy, Note.frameBy, if_true, List.append_nil]
    exact hs.recorded hstage htodo
  | counted hstage htodo =>
    obtain ⟨samples, hs⟩ := hstreaming (by rw [hstage]; rfl)
    exact hquiet (by simp [hstage]) (.inl (by simp [hstage])) (hs.counted hstage htodo)
  | unlisted hstage | unlistedNone hstage | silenced hstage | released hstage | retired hstage
  | reported hstage =>
    have hs := hc.settled_of (congrArg Stage.outcome? hstage)
    exact hquiet (by simp [hstage]) (.inr rfl) (.settled rfl hs)

end Playout.Task
