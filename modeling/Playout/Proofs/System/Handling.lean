import Mathlib
import Playout.Proofs.Playback.Turn
import Playout.Proofs.Session.Custody
import Playout.Proofs.Session.Push

/-!
# Tracks in the hands of work

A request for a track has the track in hand that the room created for it until it is enlisted, and a playback
has the track in hand that it took off the map until it has closed it. Each step of a request, of a playback
and of an errand passes tracks between these hands and the map in one of the ways there are.
-/

namespace Playout

/-! ## Requests for a track -/

namespace Obtain

variable {s s' : Session} {name : String} {o : Obtain} {cue : Cue} {r : Obtain ⊕ Except DeliveryError Handle}

def hands : Obtain → List Handle
  | .enlisting h => [h]
  | _ => []

/-- The track in hand behind a step of a request. -/
def handsBehind : Obtain ⊕ Except DeliveryError Handle → List Handle
  | .inl o => o.hands
  | .inr _ => []

theorem Transition.handling (h : Transition s name o cue r s') : s.Handling o.hands s' (handsBehind r) := by
  cases h with
  | found | refused | missing | suspend | unpublished => exact .keep rfl (fun _ => rfl) fun _ => rfl
  | published => exact .create rfl rfl
  | @enlisted k =>
    rcases s.enlist_cases name k with ⟨result, heq, -⟩ | ⟨hnone, heq⟩ <;> rw [heq]
    · exact .close rfl rfl
    · exact .enlist hnone rfl rfl

theorem Transition.mem_tracks (h : Transition s name o cue r s') {entry : String × Handle}
    (hmem : entry ∈ s.tracks) : entry ∈ s'.tracks := by
  cases h with
  | found | refused | missing | suspend | unpublished | published => exact hmem
  | @enlisted k =>
    rcases s.enlist_cases name k with ⟨result, heq, -⟩ | ⟨-, heq⟩ <;> rw [heq]
    · exact hmem
    · exact List.mem_cons_of_mem _ hmem

theorem Transition.mem_of_ok {h : Handle} (ht : Transition s name o cue (.inr (.ok h)) s') :
    (Track.normalize name, h) ∈ s'.tracks := by
  generalize hr : (.inr (.ok h) : Obtain ⊕ Except DeliveryError Handle) = r at ht
  cases ht with
  | refused | missing | suspend | unpublished | published => cases hr
  | found hl =>
    cases hr
    exact Session.mem_of_lookup (Session.lookup_eq_found.1 hl)
  | @enlisted k =>
    rcases s.enlist_cases name k with ⟨result, heq, ⟨rfl, -⟩ | ⟨first, rfl, hl⟩⟩ | ⟨-, heq⟩
    · rw [heq] at hr
      cases hr
    · rw [heq] at hr ⊢
      cases hr
      exact Session.mem_of_lookup hl
    · rw [heq] at hr ⊢
      cases hr
      exact List.mem_cons_self

theorem Transition.of_error {cause : DeliveryError} (ht : Transition s name o cue (.inr (.error cause)) s') :
    cue = .published (.error cause) ∨ cause = .roomClosed ∧ s.closed = true := by
  generalize hr : (.inr (.error cause) : Obtain ⊕ Except DeliveryError Handle) = r at ht
  cases ht with
  | found | missing | suspend | published => cases hr
  | refused hl =>
    cases hr
    exact .inr ⟨rfl, (Session.lookup_eq_refused.1 hl).2⟩
  | unpublished =>
    cases hr
    exact .inl rfl
  | @enlisted k =>
    rcases s.enlist_cases name k with ⟨result, heq, ⟨rfl, hclosed⟩ | ⟨first, rfl, -⟩⟩ | ⟨-, heq⟩
    · rw [heq] at hr
      cases hr
      exact .inr ⟨rfl, hclosed⟩
    · rw [heq] at hr
      cases hr
    · rw [heq] at hr
      cases hr

theorem Transition.framesOf (h : Transition s name o cue r s') (k : Handle) :
    s'.room.framesOf k = s.room.framesOf k := by
  cases h with
  | found | refused | missing | suspend | unpublished => rfl
  | published => exact s.room.framesOf_create _ k
  | @enlisted h =>
    rcases s.enlist_cases name h with ⟨result, heq, -⟩ | ⟨-, heq⟩
    · rw [heq]
      exact s.room.framesOf_closeTrack _ k
    · rw [heq]

end Obtain

/-! ## Playbacks -/

/-- The track that a playback has in hand in a stage. -/
def Task.Stage.hands : Task.Stage → List Handle
  | .obtaining o => o.hands
  | .silencing h _ => [h]
  | _ => []

namespace Task

variable {s s' : Session} {m m' : Counters} {t t' : Task} {cue : Cue}

def hands (t : Task) : List Handle := t.stage.hands

theorem hands_of_stage {stage : Stage} (h : t.stage = stage) : t.hands = stage.hands := congrArg Stage.hands h

theorem hands_of_plain (h : t.stage.plain = true) : t.hands = [] := by
  unfold hands
  cases hstage : t.stage <;> first | rfl | simp [hstage, Stage.plain] at h

theorem handling_of_same (h : t.hands = []) (h' : t'.hands = []) (htracks : s'.tracks = s.tracks)
    (hroom : s'.room = s.room) : s.Handling t.hands s' t'.hands := by
  rw [h, h']
  exact .keep htracks (fun _ => by rw [hroom]) fun _ => by rw [hroom]

theorem Transition.handling (h : Transition s m t cue t' s' m') : s.Handling t.hands s' t'.hands := by
  cases h with
  | quit hstage | quitWaiting hstage | granted hstage | stopFetching hstage
  | stopListening hstage | stopDelivering hstage | seek hstage | stopPublishing hstage | resumePublishing hstage
  | stopHolding hstage | due hstage | stopWriting hstage | suspend hstage | resume hstage | unwritten hstage
  | written hstage | counted hstage | released hstage | reported hstage =>
    exact handling_of_same (hands_of_stage hstage) rfl rfl rfl
  | answered hstage =>
    exact handling_of_same (hands_of_stage hstage) (hands_of_plain (t.onward_receive _).plain) rfl rfl
  | heard hstage =>
    exact handling_of_same (hands_of_stage hstage) (hands_of_plain (t.onward_hear _ _).plain) rfl rfl
  | exhausted hstage =>
    exact handling_of_same (hands_of_stage hstage) (hands_of_plain t.onward_flush.plain) rfl rfl
  | reuse hstage =>
    exact handling_of_same (hands_of_stage hstage) (hands_of_plain (t.plain_withTrack _)) rfl rfl
  | ask hstage | delivered hstage | booked hstage =>
    refine handling_of_same (hands_of_stage hstage) ?_ rfl rfl
    split <;> rfl
  | obtaining hstage _ ho =>
    rw [hands_of_stage hstage]
    exact ho.handling
  | unobtained hstage _ ho =>
    rw [hands_of_stage hstage]
    exact ho.handling
  | obtained hstage _ ho =>
    rw [hands_of_stage hstage, hands_of_plain (t.plain_withTrack _)]
    exact ho.handling
  | recorded hstage =>
    rw [hands_of_stage hstage]
    exact .keep rfl (fun k => s.room.isClosed_record _ k _) fun k => s.room.hasClosed_record _ k _
  | unlisted hstage hl =>
    rw [hands_of_stage hstage]
    exact .unlist hl rfl rfl
  | unlistedNone hstage hl =>
    exact handling_of_same (hands_of_stage hstage) rfl (Session.filter_of_lookup_none hl) rfl
  | silenced hstage =>
    rw [hands_of_stage hstage]
    exact .close rfl rfl
  | retired hstage =>
    have hs := s.sameTracks_finish t.slot
    exact handling_of_same (hands_of_stage hstage) rfl hs.tracks hs.room

theorem Transition.room_of_idle (h : Transition s m t cue t' s' m') (hidle : t.phase ≠ .working) :
    s'.tracks = s.tracks ∧ s'.room = s.room := by
  cases h with
  | quit | ask | quitWaiting | granted | reported => exact ⟨rfl, rfl⟩
  | retired => exact ⟨(s.sameTracks_finish _).tracks, (s.sameTracks_finish _).room⟩
  | _ hstage => exact absurd (phase_of_stage hstage) hidle

end Task

/-! ## Errands -/

namespace Errand

variable {s s' : Session} {m m' : Counters} {e e' : Errand} {cue : Cue}

def hands : Errand → List Handle
  | .track _ o => o.hands
  | .tracked .. => []
  | .push p =>
    match p.stage with
    | .obtaining o => o.hands
    | _ => []

theorem hands_push_new (s : Session) (name : String) (pcm : Bytes) :
    (Errand.push (Push.new s name pcm)).hands = [] := by
  by_cases h : Pcm.ofLittleEndian pcm = [] <;> simp [hands, Push.new, Obtain.hands, h]

/-- A step of an errand: it goes on with its request for a track, or has a frame accepted, or neither. -/
inductive Transition (s : Session) (e : Errand) : Errand → Session → Prop
  | obtain {name : String} {o : Obtain} {cue : Cue} {r : Obtain ⊕ Except DeliveryError Handle} {e' : Errand}
      {s' : Session} (ho : Obtain.Transition s name o cue r s') (hhands : e.hands = o.hands)
      (hhands' : e'.hands = Obtain.handsBehind r)
      (hnotes : ∀ k, (e.notes e').filterMap (Note.frameOn k) = []) : Transition s e e' s'
  | record {h : Handle} {frame : Frame} {e' : Errand} (hopen : s.room.isClosed h = false)
      (hhands : e.hands = []) (hhands' : e'.hands = []) (hnotes : e.notes e' = [.recorded none h frame]) :
      Transition s e e' { s with room := s.room.record h frame }
  | rest {e' : Errand} (hhands : e.hands = []) (hhands' : e'.hands = []) (hnotes : e.notes e' = []) :
      Transition s e e' s

theorem frames_of_obtaining {p : Push} {o : Obtain} (hstage : p.stage = .obtaining o) (p' : Push) (k : Handle) :
    (p.notes p').filterMap (Note.frameOn k) = [] := by
  unfold Push.notes
  rw [hstage]
  split
  · rfl
  · next heq _ => cases heq
  · rfl

theorem frames_of_track (name : String) (o : Obtain) (e' : Errand) (k : Handle) :
    ((Errand.track name o).notes e').filterMap (Note.frameOn k) = [] := by
  unfold notes
  split
  · rfl
  · next heq => cases heq
  · rfl

theorem transition_of_push {p p' : Push} (h : p.step s m cue = some (p', s', m')) :
    Transition s (.push p) (.push p') s' := by
  have hhands : ∀ stage, p.stage = stage → (∀ o, stage ≠ .obtaining o) → (Errand.push p).hands = [] := by
    intro stage hstage hne
    cases stage with
    | obtaining o => exact absurd rfl (hne o)
    | _ => simp [hands, hstage]
  cases Push.transition_of_step h with
  | obtaining hstage ho | unobtained hstage ho | obtained hstage ho =>
    exact .obtain ho (by simp [hands, hstage]) rfl (frames_of_obtaining hstage _)
  | recorded hstage htrack htodo hopen =>
    refine .record hopen (hhands _ hstage (by simp)) rfl ?_
    simp [notes, Push.notes, hstage, htrack, htodo]
  | unwritten hstage | written hstage | counted hstage | completed hstage =>
    refine .rest (hhands _ hstage (by simp)) rfl ?_
    simp [notes, Push.notes, hstage]

/-- The use of a track behind a step of its request. -/
def tracking (name : String) : Obtain ⊕ Except DeliveryError Handle → Errand
  | .inl o => .track name o
  | .inr result => .tracked name result

theorem hands_tracking (name : String) (r : Obtain ⊕ Except DeliveryError Handle) :
    (tracking name r).hands = Obtain.handsBehind r := by
  cases r <;> rfl

theorem step_cases (h : e.step s m cue = some (e', s', m')) :
    (∃ name o r, e = .track name o ∧ e' = tracking name r ∧ Obtain.Transition s name o cue r s' ∧ m' = m) ∨
      ∃ p p', e = .push p ∧ e' = .push p' ∧ p.step s m cue = some (p', s', m') := by
  unfold step at h
  split at h
  · split at h <;> cases h
    · next ho => exact .inl ⟨_, _, .inl _, rfl, rfl, Obtain.transition_of_step ho, rfl⟩
    · next ho => exact .inl ⟨_, _, .inr _, rfl, rfl, Obtain.transition_of_step ho, rfl⟩
  · cases h
  · obtain ⟨⟨p', s₁, m₁⟩, hp, heq⟩ := Option.map_eq_some_iff.1 h
    cases heq
    exact .inr ⟨_, _, rfl, rfl, hp⟩

theorem transition_of_step (h : e.step s m cue = some (e', s', m')) : Transition s e e' s' := by
  obtain ⟨name, o, r, rfl, rfl, ho, -⟩ | ⟨p, p', rfl, rfl, hp⟩ := step_cases h
  · exact .obtain ho rfl (hands_tracking name r) (frames_of_track _ _ _)
  · exact transition_of_push hp

theorem Transition.sameSlots (h : Transition s e e' s') : s.SameSlots s' ∧ s'.lease = s.lease := by
  cases h with
  | obtain ho => exact ho.sameSlots
  | record => exact ⟨⟨rfl, rfl, rfl, rfl⟩, rfl⟩
  | rest => exact ⟨.refl, rfl⟩

theorem Transition.handling (h : Transition s e e' s') : s.Handling e.hands s' e'.hands := by
  cases h with
  | obtain ho hhands hhands' =>
    rw [hhands, hhands']
    exact ho.handling
  | record _ hhands hhands' =>
    rw [hhands, hhands']
    exact .keep rfl (fun k => s.room.isClosed_record _ k _) fun k => s.room.hasClosed_record _ k _
  | rest hhands hhands' =>
    rw [hhands, hhands']
    exact .keep rfl (fun _ => rfl) fun _ => rfl

theorem Transition.mem_tracks (h : Transition s e e' s') {entry : String × Handle} (hmem : entry ∈ s.tracks) :
    entry ∈ s'.tracks := by
  cases h with
  | obtain ho => exact ho.mem_tracks hmem
  | record | rest => exact hmem

theorem Transition.frameSamples (h : Transition s e e' s') : s'.frameSamples = s.frameSamples := by
  cases h with
  | obtain ho => exact ho.frameSamples
  | record | rest => rfl

end Errand

end Playout
