import Mathlib
import Playout.Playback.Task

/-!
# What a step of a playback can be

`Obtain.Transition` and `Task.Transition` name every step that a request for a track and a playback can take,
each with all that lets it happen and all that it changes. A step is one of them (`Obtain.transition_of_step`,
`Task.transition_of_step`), so what steps keep is shown by going through their names.
-/

namespace Playout

/-! ## Requests for a track -/

/-- A step of a request for a track: where it stands then, or its result, and the session behind it. -/
inductive Obtain.Transition (s : Session) (name : String) :
    Obtain → Cue → (Obtain ⊕ Except DeliveryError Handle) → Session → Prop
  | found {h : Handle} (hl : s.lookup name = .found h) :
      Transition s name .asking .go (.inr (.ok h)) s
  | refused (hl : s.lookup name = .refused) :
      Transition s name .asking .go (.inr (.error .roomClosed)) s
  | missing (hl : s.lookup name = .missing) :
      Transition s name .asking .go (.inl (.publishing false)) s
  | suspend {suspended : Bool} :
      Transition s name (.publishing suspended) .suspended (.inl (.publishing true)) s
  | unpublished {suspended : Bool} {cause : DeliveryError} :
      Transition s name (.publishing suspended) (.published (.error cause)) (.inr (.error cause)) s
  | published {suspended : Bool} :
      Transition s name (.publishing suspended) (.published (.ok ()))
        (.inl (.enlisting (s.publish name).1)) (s.publish name).2
  | enlisted {h : Handle} :
      Transition s name (.enlisting h) .go (.inr (s.enlist name h).1) (s.enlist name h).2

theorem Obtain.transition_of_step {s s' : Session} {name : String} {o : Obtain} {cue : Cue}
    {r : Obtain ⊕ Except DeliveryError Handle} (h : o.step s name cue = some (r, s')) :
    Obtain.Transition s name o cue r s' := by
  unfold Obtain.step at h
  split at h
  · split at h <;> cases h
    · next hl => exact .found hl
    · next hl => exact .refused hl
    · next hl => exact .missing hl
  · cases h
    exact .suspend
  · cases h
    exact .unpublished
  · cases h
    exact .published
  · cases h
    exact .enlisted
  · cases h

theorem Session.lookup_eq_found {s : Session} {name : String} {h : Handle} :
    s.lookup name = .found h ↔ s.tracks.lookup (Track.normalize name) = some h := by
  unfold Session.lookup
  split
  · next hl => simp [hl]
  · next hl => split <;> simp [hl]

theorem Session.lookup_eq_refused {s : Session} {name : String} :
    s.lookup name = .refused ↔ s.tracks.lookup (Track.normalize name) = none ∧ s.closed = true := by
  unfold Session.lookup
  split
  · next hl => simp [hl]
  · next hl =>
    split
    · next hclosed => simp [hl, hclosed]
    · next hopen => simp [hopen]

theorem Session.enlist_cases (s : Session) (name : String) (h : Handle) :
    (∃ result, s.enlist name h = (result, s.closeHandle h) ∧
      (result = .error .roomClosed ∧ s.closed = true ∨
        ∃ first, result = .ok first ∧ s.tracks.lookup (Track.normalize name) = some first)) ∨
    (s.tracks.lookup (Track.normalize name) = none ∧
      s.enlist name h = (.ok h, { s with tracks := (Track.normalize name, h) :: s.tracks })) := by
  unfold Session.enlist
  split
  · next hclosed => exact .inl ⟨_, rfl, .inl ⟨rfl, hclosed⟩⟩
  · split
    · next hl => exact .inl ⟨_, rfl, .inr ⟨_, rfl, hl⟩⟩
    · next hl => exact .inr ⟨hl, rfl⟩

/-! ## Playbacks -/

namespace Task

/-- A step of a playback: the playback, the session and the counters behind it. -/
inductive Transition (s : Session) (m : Counters) (t : Task) : Cue → Task → Session → Counters → Prop
  -- up to the first report
  | quit (hstage : t.stage = .starting) (hc : s.isCancelled t.slot = true) :
      Transition s m t .go (t.enter (.retiring (.ok (.cancelled 0)))) s m
  | ask (hstage : t.stage = .starting) (hc : s.isCancelled t.slot = false) :
      Transition s m t .go
        (t.enter (if (s.lease.request t.slot).holder = some t.slot then .fetching else .waiting))
        { s with lease := s.lease.request t.slot } m
  | quitWaiting (hstage : t.stage = .waiting) (hc : s.isCancelled t.slot = true) :
      Transition s m t .go (t.enter (.retiring (.ok (.cancelled 0))))
        { s with lease := s.lease.leave t.slot } m
  | granted (hstage : t.stage = .waiting) (hc : s.isCancelled t.slot = false)
      (hholder : s.lease.holder = some t.slot) :
      Transition s m t .go (t.enter .fetching) s m
  | stopFetching {cue : Cue} (hstage : t.stage = .fetching) (hc : s.isCancelled t.slot = true) :
      Transition s m t cue t.stopped s { m with fetches := m.fetches + 1 }
  | answered {result : Except String Head} (hstage : t.stage = .fetching)
      (hc : s.isCancelled t.slot = false) :
      Transition s m t (.answered result) (t.receive result) s { m with fetches := m.fetches + 1 }
  | stopListening {cue : Cue} (hstage : t.stage = .listening) (hc : s.isCancelled t.slot = true) :
      Transition s m t cue t.stopped s m
  | heard {event : Event} (hstage : t.stage = .listening) (hc : s.isCancelled t.slot = false) :
      Transition s m t (.event event) (t.hear s.frameSamples event) s m
  | exhausted (hstage : t.stage = .listening) (hc : s.isCancelled t.slot = false) :
      Transition s m t .over t.flush s m
  -- one frame
  | delivered (hstage : t.stage = .delivering) (htodo : t.todo = []) :
      Transition s m t .go (if t.final then t.completed else t.enter .listening) s m
  | stopDelivering (hstage : t.stage = .delivering) (htodo : t.todo ≠ [])
      (hc : s.isCancelled t.slot = true) :
      Transition s m t .go t.stopped s m
  | reuse {h : Handle} (hstage : t.stage = .delivering) (htodo : t.todo ≠ [])
      (hc : s.isCancelled t.slot = false) (htrack : t.track = some h) :
      Transition s m t .go (t.withTrack h) s m
  | seek (hstage : t.stage = .delivering) (htodo : t.todo ≠ []) (hc : s.isCancelled t.slot = false)
      (htrack : t.track = none) :
      Transition s m t .go (t.enter (.obtaining .asking)) s m
  | stopPublishing {cue : Cue} (hstage : t.stage = .obtaining (.publishing true))
      (hc : s.isCancelled t.slot = true) :
      Transition s m t cue t.stopped s m
  | resumePublishing (hstage : t.stage = .obtaining (.publishing true)) (hc : s.isCancelled t.slot = false) :
      Transition s m t .go (t.enter (.obtaining (.publishing false))) s m
  | obtaining {o o' : Obtain} {cue : Cue} {s' : Session} (hstage : t.stage = .obtaining o)
      (hc : o = .publishing true → s.isCancelled t.slot = false)
      (ho : Obtain.Transition s t.trackName o cue (.inl o') s') :
      Transition s m t cue (t.enter (.obtaining o')) s' m
  | obtained {o : Obtain} {cue : Cue} {h : Handle} {s' : Session} (hstage : t.stage = .obtaining o)
      (hc : o = .publishing true → s.isCancelled t.slot = false)
      (ho : Obtain.Transition s t.trackName o cue (.inr (.ok h)) s') :
      Transition s m t cue (t.withTrack h) s' m
  | unobtained {o : Obtain} {cue : Cue} {cause : DeliveryError} {s' : Session}
      (hstage : t.stage = .obtaining o) (hc : o = .publishing true → s.isCancelled t.slot = false)
      (ho : Obtain.Transition s t.trackName o cue (.inr (.error cause)) s') :
      Transition s m t cue (t.failed (.delivery cause)) s' m
  | booked {now wake : Nat} {pacer pacer' : Pacer} {frame : Frame} {rest : List Frame}
      (hstage : t.stage = .pacing) (hpacer : t.pacer = some pacer) (htodo : t.todo = frame :: rest)
      (hwake : (pacer.wait now frame.length).1 = wake) (hpacer' : (pacer.wait now frame.length).2 = pacer') :
      Transition s m t (.time now)
        { t with
          pacer := some pacer'
          stage := if wake ≤ now then .writing false false else .holding wake } s m
  | stopHolding {now wake : Nat} (hstage : t.stage = .holding wake) (hc : s.isCancelled t.slot = true) :
      Transition s m t (.time now) t.stopped s m
  | due {now wake : Nat} (hstage : t.stage = .holding wake) (hc : s.isCancelled t.slot = false)
      (hwake : wake ≤ now) :
      Transition s m t (.time now) (t.enter (.writing false false)) s m
  | stopWriting {cue : Cue} (hstage : t.stage = .writing true false) (hc : s.isCancelled t.slot = true) :
      Transition s m t cue t.stopped s m
  | suspend (hstage : t.stage = .writing false false) :
      Transition s m t .suspended (t.enter (.writing true false)) s m
  | resume (hstage : t.stage = .writing true false) (hc : s.isCancelled t.slot = false) :
      Transition s m t .go (t.enter (.writing false false)) s m
  | recorded {suspended : Bool} {h : Handle} {frame : Frame} {rest : List Frame}
      (hstage : t.stage = .writing suspended false)
      (hc : suspended = true → s.isCancelled t.slot = false) (htrack : t.track = some h)
      (htodo : t.todo = frame :: rest) (hopen : s.room.isClosed h = false) :
      Transition s m t .recorded (t.enter (.writing false true))
        { s with room := s.room.record h frame } m
  | unwritten {suspended : Bool} {cause : DeliveryError} (hstage : t.stage = .writing suspended false)
      (hc : suspended = true → s.isCancelled t.slot = false) :
      Transition s m t (.written (.error cause)) (t.failed (.delivery cause)) s m
  | written {suspended : Bool} (hstage : t.stage = .writing suspended true) :
      Transition s m t (.written (.ok ())) (t.enter .counting) s m
  | counted {frame : Frame} {rest : List Frame} (hstage : t.stage = .counting)
      (htodo : t.todo = frame :: rest) :
      Transition s m t .go
        { t with todo := rest, delivered := t.delivered + frame.length, stage := .delivering } s
        { m with frames := m.frames + 1, samples := m.samples + frame.length }
  -- behind the stream
  | unlisted {h : Handle} {ending : Ending} (hstage : t.stage = .closing ending)
      (hl : (s.unlist t.trackName).1 = some h) :
      Transition s m t .go (t.enter (.silencing h ending)) (s.unlist t.trackName).2 m
  | unlistedNone {ending : Ending} (hstage : t.stage = .closing ending)
      (hl : (s.unlist t.trackName).1 = none) :
      Transition s m t .go (t.enter (.releasing ending)) (s.unlist t.trackName).2 m
  | silenced {h : Handle} {ending : Ending} (hstage : t.stage = .silencing h ending) :
      Transition s m t .go (t.enter (.releasing ending)) (s.closeHandle h) m
  | released {ending : Ending} (hstage : t.stage = .releasing ending) :
      Transition s m t .go (t.enter (.retiring ending)) { s with lease := s.lease.leave t.slot } m
  | retired {ending : Ending} (hstage : t.stage = .retiring ending) :
      Transition s m t .go (t.enter (.reporting ending)) (s.finish t.slot) m
  | reported {ending : Ending} (hstage : t.stage = .reporting ending) :
      Transition s m t .go (t.enter (.ended ending)) s (m.countEnding ending)

variable {s s' : Session} {m m' : Counters} {t t' : Task} {cue : Cue}

theorem transition_of_stepOpening (h : t.stepOpening s m cue = some (t', s', m')) :
    Transition s m t cue t' s' m' := by
  unfold stepOpening at h
  dsimp only at h
  split at h
  · next hstage =>
    cases hc : s.isCancelled t.slot <;> simp only [hc, if_true, Bool.false_eq_true, if_false] at h <;> cases h
    · exact .ask hstage hc
    · exact .quit hstage hc
  · next hstage =>
    cases hc : s.isCancelled t.slot <;> simp only [hc, if_true, Bool.false_eq_true, if_false] at h
    · split at h
      · next hholder =>
        cases h
        exact .granted hstage hc hholder
      · cases h
    · cases h
      exact .quitWaiting hstage hc
  · next hstage =>
    split at h <;> cases h
    · next hc => exact .stopFetching hstage hc
    · next hc => exact .stopFetching hstage hc
    · next hc => exact .answered hstage hc
  · next hstage =>
    split at h <;> cases h
    · next hc => exact .stopListening hstage hc
    · next hc => exact .stopListening hstage hc
    · next hc => exact .stopListening hstage hc
    · next hc => exact .heard hstage hc
    · next hc => exact .exhausted hstage hc
  · cases h

theorem recorded_of_record {suspended : Bool} (hstage : t.stage = .writing suspended false)
    (hc : suspended = true → s.isCancelled t.slot = false)
    (h : stepDelivery.record s m t = some (t', s', m')) : Transition s m t .recorded t' s' m' := by
  unfold stepDelivery.record at h
  split at h
  · next htrack htodo =>
    split at h
    · cases h
    · next hopen =>
      cases h
      exact .recorded hstage hc htrack htodo (by simpa using hopen)
  · cases h

theorem transition_of_stepDelivery (h : t.stepDelivery s m cue = some (t', s', m')) :
    Transition s m t cue t' s' m' := by
  unfold stepDelivery at h
  split at h
  · next hstage =>
    split at h
    · next htodo =>
      cases h
      exact .delivered hstage (List.isEmpty_iff.1 htodo)
    · next htodo =>
      have htodo : t.todo ≠ [] := by
        intro hnil
        exact htodo (List.isEmpty_iff.2 hnil)
      split at h
      · next hc =>
        cases h
        exact .stopDelivering hstage htodo hc
      · next hc =>
        have hc := eq_false_of_ne_true hc
        split at h <;> cases h
        · next htrack => exact .reuse hstage htodo hc htrack
        · next htrack => exact .seek hstage htodo hc htrack
  · next hstage =>
    split at h <;> cases h
    · next hc => exact .stopPublishing hstage hc
    · next hc => exact .resumePublishing hstage (eq_false_of_ne_true hc)
  · next o hstage _ =>
    split at h
    · next hc =>
      cases h
      obtain ⟨rfl, hc⟩ := hc
      exact .stopPublishing hstage hc
    · next hc =>
      have hc : o = .publishing true → s.isCancelled t.slot = false := by
        intro ho
        apply eq_false_of_ne_true
        intro hcancelled
        exact hc ⟨ho, hcancelled⟩
      split at h
      · cases h
      · next ho =>
        cases h
        exact .obtaining hstage hc (Obtain.transition_of_step ho)
      · next ho =>
        cases h
        exact .obtained hstage hc (Obtain.transition_of_step ho)
      · next ho =>
        cases h
        exact .unobtained hstage hc (Obtain.transition_of_step ho)
  · next hstage =>
    split at h
    · next hpacer htodo =>
      cases h
      exact .booked hstage hpacer htodo rfl rfl
    · cases h
  · next hstage =>
    split at h
    · next hc =>
      cases h
      exact .stopHolding hstage hc
    · next hc =>
      split at h
      · next hwake =>
        cases h
        exact .due hstage (eq_false_of_ne_true hc) hwake
      · cases h
  · next hstage =>
    split at h
    · next hc =>
      cases h
      exact .stopWriting hstage hc
    · next hc =>
      have hc : true = true → s.isCancelled t.slot = false := fun _ => eq_false_of_ne_true hc
      split at h
      · cases h
        exact .resume hstage (hc rfl)
      · exact recorded_of_record hstage hc h
      · cases h
        exact .unwritten hstage hc
      · cases h
  · next hstage =>
    cases h
    exact .suspend hstage
  · next hstage => exact recorded_of_record hstage (by simp) h
  · next hstage =>
    cases h
    exact .unwritten hstage (by simp)
  · next hstage =>
    cases h
    exact .written hstage
  · next hstage =>
    split at h
    · cases h
    · next htodo =>
      cases h
      exact .counted hstage htodo
  · cases h

theorem transition_of_stepClosing (h : t.stepClosing s m = some (t', s', m')) :
    Transition s m t .go t' s' m' := by
  unfold stepClosing at h
  split at h
  · next hstage =>
    split at h
    · next hu =>
      cases h
      have hl := congrArg Prod.fst hu
      rw [show s' = (s.unlist t.trackName).2 from (congrArg Prod.snd hu).symm]
      exact .unlisted hstage hl
    · next hu =>
      cases h
      have hl := congrArg Prod.fst hu
      rw [show s' = (s.unlist t.trackName).2 from (congrArg Prod.snd hu).symm]
      exact .unlistedNone hstage hl
  · next hstage =>
    cases h
    exact .silenced hstage
  · next hstage =>
    cases h
    exact .released hstage
  · next hstage =>
    cases h
    exact .retired hstage
  · next hstage =>
    cases h
    exact .reported hstage
  · cases h

/-- A step of a playback is one of those named. -/
theorem transition_of_step (h : t.step s m cue = some (t', s', m')) : Transition s m t cue t' s' m' := by
  unfold step at h
  split at h
  case h_11 | h_12 | h_13 | h_14 | h_15 =>
    split at h
    · exact transition_of_stepClosing h
    · cases h
  case h_16 => cases h
  all_goals first | exact transition_of_stepOpening h | exact transition_of_stepDelivery h

end Task

end Playout
