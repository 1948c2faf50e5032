import Mathlib
import Playout.Proofs.Playback.Transition
import Playout.Proofs.Session.Slots
import Playout.Proofs.System.Note

/-!
# The turn of a playback

What a playback is to the others of its session is told by a few phases: it has not asked for the lease, waits
for it, works with it, is behind it, or has dropped its slot. `Task.Turn` says what a step of a playback is to
the lease and to the slots (`Task.Transition.turn`), and `Task.Transition.acquirers` and
`Task.Transition.deliverers` say which steps are noted as getting the lease and as delivering to a track.
-/

namespace Playout

/-- Where a playback stands with the lease and with its slot. -/
inductive Task.Phase where
  /-- It has not asked for the lease. -/
  | fresh
  /-- It asked for the lease and has not looked since the lease is its own, if it is. -/
  | waiting
  /-- It has the lease. -/
  | working
  /-- It has given the lease up, or never got it. -/
  | leaving
  /-- It has dropped its slot. -/
  | gone
deriving DecidableEq, Repr

def Task.Stage.phase : Task.Stage → Task.Phase
  | .starting => .fresh
  | .waiting => .waiting
  | .retiring _ => .leaving
  | .reporting _ | .ended _ => .gone
  | _ => .working

def Task.phase (t : Task) : Task.Phase := t.stage.phase

/-! ## What is left alone -/

/-- Nothing is different about the slots of a session. -/
structure Session.SameSlots (s s' : Session) : Prop where
  slots : s'.slots = s.slots
  active : s'.active = s.active
  revoked : s'.revoked = s.revoked
  closed : s'.closed = s.closed

namespace Session.SameSlots

variable {s s' : Session}

theorem refl : s.SameSlots s := ⟨rfl, rfl, rfl, rfl⟩

theorem inOrder (h : s.SameSlots s') (hs : s.SlotsInOrder) : s'.SlotsInOrder :=
  hs.of_same h.slots h.active h.revoked h.closed

theorem isCancelled (h : s.SameSlots s') (i : Nat) : s'.isCancelled i = s.isCancelled i := by
  rw [Session.isCancelled, Session.isCancelled, h.slots, h.revoked]

theorem isHeld (h : s.SameSlots s') (i : Nat) : s'.isHeld i = s.isHeld i := by
  rw [Session.isHeld, Session.isHeld, h.slots]

end Session.SameSlots

/-- Nothing is different about the lease, the tracks and the room of a session. -/
structure Session.SameTracks (s s' : Session) : Prop where
  lease : s'.lease = s.lease
  tracks : s'.tracks = s.tracks
  room : s'.room = s.room
  frameSamples : s'.frameSamples = s.frameSamples

theorem Session.sameTracks_cancel (s : Session) (i : Nat) : s.SameTracks (s.cancel i) := ⟨rfl, rfl, rfl, rfl⟩

theorem Session.sameTracks_preempt (s : Session) : s.SameTracks s.preempt := by
  unfold Session.preempt
  split <;> exact ⟨rfl, rfl, rfl, rfl⟩

theorem Session.sameTracks_begin (s : Session) : s.SameTracks s.begin.2 := by
  obtain ⟨hlease, htracks, hroom, hframe⟩ := s.sameTracks_preempt
  exact ⟨hlease, htracks, hroom, hframe⟩

theorem Session.sameTracks_finish (s : Session) (i : Nat) : s.SameTracks (s.finish i) := by
  unfold Session.finish
  dsimp only
  split <;> exact ⟨rfl, rfl, rfl, rfl⟩

section

variable {s s' : Session} {name : String} {o : Obtain} {cue : Cue} {r : Obtain ⊕ Except DeliveryError Handle}

theorem Session.enlist_sameSlots (s : Session) (name : String) (h : Handle) :
    s.SameSlots (s.enlist name h).2 ∧ (s.enlist name h).2.lease = s.lease := by
  rcases s.enlist_cases name h with ⟨result, heq, -⟩ | ⟨-, heq⟩ <;> rw [heq]
  · exact ⟨⟨rfl, rfl, rfl, rfl⟩, rfl⟩
  · exact ⟨⟨rfl, rfl, rfl, rfl⟩, rfl⟩

theorem Obtain.Transition.frameSamples (h : Obtain.Transition s name o cue r s') :
    s'.frameSamples = s.frameSamples := by
  cases h with
  | @enlisted h =>
    rcases s.enlist_cases name h with ⟨result, heq, -⟩ | ⟨-, heq⟩
    · exact congrArg (·.2.frameSamples) heq
    · exact congrArg (·.2.frameSamples) heq
  | _ => rfl

theorem Obtain.Transition.sameSlots (h : Obtain.Transition s name o cue r s') :
    s.SameSlots s' ∧ s'.lease = s.lease := by
  cases h with
  | found | refused | missing | suspend | unpublished => exact ⟨.refl, rfl⟩
  | published => exact ⟨⟨rfl, rfl, rfl, rfl⟩, rfl⟩
  | enlisted => exact s.enlist_sameSlots name _

end

namespace Task

variable {s s' : Session} {m m' : Counters} {t t' : Task} {cue : Cue}

/-! ## Ways on -/

theorem phase_of_stage {stage : Stage} (h : t.stage = stage) : t.phase = stage.phase := congrArg Stage.phase h

/-- A stage of work with nothing else going on: no track is looked for, and none is in hand to be closed. -/
def Stage.plain : Stage → Bool
  | .fetching | .listening | .delivering | .pacing | .holding _ | .writing .. | .counting | .closing _ => true
  | _ => false

theorem phase_of_plain (h : t.stage.plain = true) : t.phase = .working := by
  unfold phase
  cases hstage : t.stage <;> first | rfl | simp [hstage, Stage.plain] at h

/-- Two states of one playback: what it was asked to do, and in which slot, is the same. -/
structure Same (t t' : Task) : Prop where
  slot : t'.slot = t.slot
  url : t'.url = t.url
  volume : t'.volume = t.volume
  trackName : t'.trackName = t.trackName

/-- A playback goes on with its work, with the track it has, if it has one. -/
structure Onward (t t' : Task) : Prop where
  same : t.Same t'
  track : t'.track = t.track
  plain : t'.stage.plain = true

theorem onward_receive (t : Task) (result : Except String Head) : t.Onward (t.receive result) := by
  unfold receive
  split
  · exact ⟨⟨rfl, rfl, rfl, rfl⟩, rfl, rfl⟩
  · split
    · exact ⟨⟨rfl, rfl, rfl, rfl⟩, rfl, rfl⟩
    · split <;> exact ⟨⟨rfl, rfl, rfl, rfl⟩, rfl, rfl⟩

theorem onward_hear (frameSamples : Nat) (t : Task) (event : Event) : t.Onward (t.hear frameSamples event) := by
  unfold hear
  split
  · exact ⟨⟨rfl, rfl, rfl, rfl⟩, rfl, rfl⟩
  · split <;> exact ⟨⟨rfl, rfl, rfl, rfl⟩, rfl, rfl⟩
  · exact ⟨⟨rfl, rfl, rfl, rfl⟩, rfl, rfl⟩

theorem onward_flush (t : Task) : t.Onward t.flush := by
  unfold flush
  split <;> exact ⟨⟨rfl, rfl, rfl, rfl⟩, rfl, rfl⟩

theorem plain_withTrack (t : Task) (h : Handle) : (t.withTrack h).stage.plain = true := by
  unfold withTrack
  dsimp only
  split <;> rfl

/-! ## Turns -/

/-- What a step of a playback is to the lease and to the slots of its session. -/
inductive Turn (s : Session) (t : Task) (s' : Session) (t' : Task) : Prop
  | goOn (hphase : t'.phase = t.phase) (hlease : s'.lease = s.lease) (hs : s.SameSlots s')
  | quit (hphase : t.phase = .fresh) (hphase' : t'.phase = .leaving) (hlease : s'.lease = s.lease)
      (hs : s.SameSlots s')
  | ask (hphase : t.phase = .fresh) (hc : s.isCancelled t.slot = false)
      (hphase' : t'.phase = if (s.lease.request t.slot).holder = some t.slot then .working else .waiting)
      (hlease : s'.lease = s.lease.request t.slot) (hs : s.SameSlots s')
  | grant (hphase : t.phase = .waiting) (hc : s.isCancelled t.slot = false)
      (hholder : s.lease.holder = some t.slot) (hphase' : t'.phase = .working) (hlease : s'.lease = s.lease)
      (hs : s.SameSlots s')
  | leave (hphase : t.phase = .waiting ∨ t.phase = .working) (hphase' : t'.phase = .leaving)
      (hlease : s'.lease = s.lease.leave t.slot) (hs : s.SameSlots s')
  | drop (hphase : t.phase = .leaving) (hphase' : t'.phase = .gone) (hs : s' = s.finish t.slot)

theorem Transition.turn (h : Transition s m t cue t' s' m') : Turn s t s' t' := by
  cases h with
  | quit hstage => exact .quit (phase_of_stage hstage) rfl rfl .refl
  | ask hstage hc =>
    refine .ask (phase_of_stage hstage) hc ?_ rfl ⟨rfl, rfl, rfl, rfl⟩
    split <;> rfl
  | quitWaiting hstage =>
    exact .leave (.inl (phase_of_stage hstage)) rfl rfl ⟨rfl, rfl, rfl, rfl⟩
  | granted hstage hc hholder => exact .grant (phase_of_stage hstage) hc hholder rfl rfl .refl
  | stopFetching hstage | stopListening hstage | stopDelivering hstage | seek hstage | stopPublishing hstage
  | resumePublishing hstage | stopHolding hstage | due hstage | stopWriting hstage | suspend hstage | resume hstage
  | unwritten hstage | written hstage | counted hstage | reported hstage =>
    exact .goOn (phase_of_stage hstage).symm rfl .refl
  | answered hstage =>
    exact .goOn ((phase_of_plain (t.onward_receive _).plain).trans (phase_of_stage hstage).symm) rfl .refl
  | heard hstage =>
    exact .goOn ((phase_of_plain (t.onward_hear _ _).plain).trans (phase_of_stage hstage).symm) rfl .refl
  | exhausted hstage =>
    exact .goOn ((phase_of_plain t.onward_flush.plain).trans (phase_of_stage hstage).symm) rfl .refl
  | reuse hstage =>
    exact .goOn ((phase_of_plain (t.plain_withTrack _)).trans (phase_of_stage hstage).symm) rfl .refl
  | delivered hstage | booked hstage =>
    refine .goOn ?_ rfl .refl
    rw [phase_of_stage hstage]
    split <;> rfl
  | obtaining hstage _ ho | unobtained hstage _ ho =>
    exact .goOn (phase_of_stage hstage).symm ho.sameSlots.2 ho.sameSlots.1
  | obtained hstage _ ho =>
    exact .goOn ((phase_of_plain (t.plain_withTrack _)).trans (phase_of_stage hstage).symm) ho.sameSlots.2
      ho.sameSlots.1
  | recorded hstage | unlisted hstage | unlistedNone hstage | silenced hstage =>
    exact .goOn (phase_of_stage hstage).symm rfl ⟨rfl, rfl, rfl, rfl⟩
  | released hstage => exact .leave (.inr (phase_of_stage hstage)) rfl rfl ⟨rfl, rfl, rfl, rfl⟩
  | retired hstage => exact .drop (phase_of_stage hstage) rfl rfl

namespace Turn

theorem working (h : Turn s t s' t') (hphase : t'.phase = .working) :
    (t.phase = .fresh ∨ t.phase = .waiting) ∨ t.phase = .working := by
  cases h with
  | goOn heq => exact .inr (heq ▸ hphase)
  | ask hfresh => exact .inl (.inl hfresh)
  | grant hwaiting => exact .inl (.inr hwaiting)
  | quit _ heq | leave _ heq | drop _ heq => cases heq.symm.trans hphase

theorem early (h : Turn s t s' t') (hphase : t'.phase = .fresh ∨ t'.phase = .waiting) :
    t.phase = .fresh ∨ t.phase = .waiting := by
  cases h with
  | goOn heq => exact heq ▸ hphase
  | ask hfresh => exact .inl hfresh
  | grant hwaiting => exact .inr hwaiting
  | quit _ heq | leave _ heq | drop _ heq => simp [heq] at hphase

theorem live (h : Turn s t s' t') (hearly : t.phase = .fresh ∨ t.phase = .waiting) (hphase : t'.phase = .working) :
    s.isCancelled t.slot = false := by
  cases h with
  | goOn heq => simp [← heq, hphase] at hearly
  | ask _ hc => exact hc
  | grant _ hc => exact hc
  | quit _ heq | leave _ heq | drop _ heq => cases heq.symm.trans hphase

theorem isCancelled (h : Turn s t s' t') {i : Nat} (hi : s.isCancelled i = true) : s'.isCancelled i = true := by
  cases h with
  | goOn _ _ hs | quit _ _ _ hs | ask _ _ _ _ hs | grant _ _ _ _ _ hs | leave _ _ _ hs =>
    rw [hs.isCancelled, hi]
  | drop _ _ hs => rw [hs, Session.isCancelled_finish, hi]

end Turn

/-! ## What stays -/

theorem Transition.same (h : Transition s m t cue t' s' m') : t.Same t' := by
  cases h with
  | answered => exact (t.onward_receive _).same
  | heard => exact (t.onward_hear _ _).same
  | exhausted => exact t.onward_flush.same
  | delivered => split <;> exact ⟨rfl, rfl, rfl, rfl⟩
  | _ => exact ⟨rfl, rfl, rfl, rfl⟩

theorem Transition.frameSamples (h : Transition s m t cue t' s' m') : s'.frameSamples = s.frameSamples := by
  cases h with
  | obtaining _ _ ho | obtained _ _ ho | unobtained _ _ ho => exact ho.frameSamples
  | retired => exact (s.sameTracks_finish _).frameSamples
  | _ => rfl

/-! ## What is noted of a turn -/

theorem acquirers_of_working (h : t.phase = .working) : (t.notes s cue t').filterMap Note.acquirer = [] := by
  unfold notes
  split
  · next hstage => cases (phase_of_stage hstage).symm.trans h
  · next hstage => cases (phase_of_stage hstage).symm.trans h
  · split <;> rfl
  · split <;> rfl
  · split <;> rfl
  · rfl

theorem Transition.acquirers (h : Transition s m t cue t' s' m') :
    (t.notes s cue t').filterMap Note.acquirer =
      if (t.phase = .fresh ∨ t.phase = .waiting) ∧ t'.phase = .working then [t.slot] else [] := by
  by_cases hworking : t.phase = .working
  · rw [acquirers_of_working hworking, if_neg (by simp [hworking])]
  · cases h with
    | quit hstage | quitWaiting hstage | granted hstage =>
      simp [notes, hstage, phase, Stage.phase, enter, Note.acquirer]
    | ask hstage =>
      simp only [notes, hstage, phase, enter]
      split <;> simp_all [Stage.phase, Note.acquirer]
    | retired hstage | reported hstage => simp [notes, hstage, phase, Stage.phase]
    | _ hstage => exact absurd (phase_of_stage hstage) hworking

theorem working_of_deliverer {note : Note} {i : Nat} (hmem : note ∈ t.notes s cue t')
    (hi : note.deliverer = some i) : t.phase = .working := by
  unfold notes at hmem
  split at hmem
  · split at hmem <;> simp_all [Note.deliverer]
  · split at hmem <;> simp_all [Note.deliverer]
  · split at hmem <;> simp_all [Note.deliverer]
  · next hstage => exact phase_of_stage hstage
  · next hstage => exact phase_of_stage hstage
  · simp at hmem

theorem recorded_of_mem_notes {writer : Option Nat} {h : Handle} {frame : Frame}
    (hmem : .recorded writer h frame ∈ t.notes s cue t') :
    writer = some t.slot ∧ t.track = some h ∧ t.phase = .working := by
  unfold notes at hmem
  split at hmem
  · split at hmem <;> simp at hmem
  · split at hmem <;> simp at hmem
  · split at hmem <;> simp at hmem
  · split at hmem <;> simp at hmem
  · next hstage =>
    split at hmem
    · next htrack _ =>
      simp only [List.mem_singleton, Note.recorded.injEq] at hmem
      obtain ⟨rfl, rfl, -⟩ := hmem
      exact ⟨rfl, htrack, phase_of_stage hstage⟩
    · simp at hmem
  · simp at hmem

end Task

end Playout
