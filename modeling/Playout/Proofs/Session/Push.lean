import Mathlib
import Playout.Proofs.Playback.Transition
import Playout.Session.Push

/-!
# What a step of a push can be

`Push.Transition` names every step that a push can take, with all that lets it happen and all that it changes.
-/

namespace Playout.Push

/-- A step of a push: the push, the session and the counters behind it. -/
inductive Transition (s : Session) (m : Counters) (p : Push) : Cue → Push → Session → Counters → Prop
  | obtaining {o o' : Obtain} {cue : Cue} {s' : Session} (hstage : p.stage = .obtaining o)
      (ho : Obtain.Transition s p.trackName o cue (.inl o') s') :
      Transition s m p cue { p with stage := .obtaining o' } s' m
  | unobtained {o : Obtain} {cue : Cue} {cause : DeliveryError} {s' : Session} (hstage : p.stage = .obtaining o)
      (ho : Obtain.Transition s p.trackName o cue (.inr (.error cause)) s') :
      Transition s m p cue { p with stage := .done (.error cause) } s' m
  | obtained {o : Obtain} {cue : Cue} {h : Handle} {s' : Session} (hstage : p.stage = .obtaining o)
      (ho : Obtain.Transition s p.trackName o cue (.inr (.ok h)) s') :
      Transition s m p cue { p with track := some h, stage := .writing false } s' m
  | recorded {h : Handle} {frame : Frame} {rest : List Frame} (hstage : p.stage = .writing false)
      (htrack : p.track = some h) (htodo : p.todo = frame :: rest) (hopen : s.room.isClosed h = false) :
      Transition s m p .recorded { p with stage := .writing true } { s with room := s.room.record h frame } m
  | unwritten {cause : DeliveryError} (hstage : p.stage = .writing false) :
      Transition s m p (.written (.error cause)) { p with stage := .done (.error cause) } s m
  | written (hstage : p.stage = .writing true) :
      Transition s m p (.written (.ok ())) { p with stage := .counting } s m
  | counted {frame next : Frame} {rest : List Frame} (hstage : p.stage = .counting)
      (htodo : p.todo = frame :: next :: rest) :
      Transition s m p .go { p with todo := next :: rest, stage := .writing false } s
        { m with frames := m.frames + 1 }
  | completed {frame : Frame} (hstage : p.stage = .counting) (htodo : p.todo = [frame]) :
      Transition s m p .go { p with todo := [], stage := .done (.ok p.total) } s
        { m with frames := m.frames + 1, samples := m.samples + p.total }

theorem transition_of_step {s s' : Session} {m m' : Counters} {p p' : Push} {cue : Cue}
    (h : p.step s m cue = some (p', s', m')) : Transition s m p cue p' s' m' := by
  unfold step at h
  split at h
  · next hstage =>
    split at h <;> cases h
    · next ho => exact .obtaining hstage (Obtain.transition_of_step ho)
    · next ho => exact .unobtained hstage (Obtain.transition_of_step ho)
    · next ho => exact .obtained hstage (Obtain.transition_of_step ho)
  · next recorded hstage =>
    split at h
    · next htrack htodo =>
      split at h <;> cases h
      next hopen =>
      obtain rfl : recorded = false := Bool.eq_false_of_not_eq_true fun hrecorded => hopen (.inl hrecorded)
      exact .recorded hstage htrack htodo (Bool.eq_false_of_not_eq_true fun hclosed => hopen (.inr hclosed))
    · split at h <;> cases h
      next hrecorded =>
      obtain rfl := Bool.eq_false_of_not_eq_true hrecorded
      exact .unwritten hstage
    · split at h <;> cases h
      next hrecorded =>
      obtain rfl := hrecorded
      exact .written hstage
    · cases h
  · next hstage =>
    split at h
    · next htodo =>
      cases h
      exact .completed hstage htodo
    · next rest hne htodo =>
      cases h
      cases rest with
      | nil => exact (hne rfl).elim
      | cons next rest => exact .counted hstage htodo
    · cases h
  · cases h

end Playout.Push
