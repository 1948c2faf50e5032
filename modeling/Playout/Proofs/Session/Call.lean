import Mathlib
import Playout.Proofs.System.Handling
import Playout.Session.Call

/-!
# What a step of a call can be

`Call.Transition` names every step of a call to a session. The steps of a call that nobody interrupts make up the
operation (`path_obtain`, `path_closeTrack`, `path_close`).
-/

namespace Playout.Session

/-- The map of a closed session was emptied. -/
structure Spent (s : Session) : Prop where
  closed : s.closed = true
  tracks : s.tracks = []

namespace Call

/-- The tracks that a call has in hand. -/
def hands : Call → List Handle
  | .obtaining _ o => o.hands
  | .silencing h => [h]
  | .muting handles => handles
  | _ => []

/-- What a request for a track has come to, under the name on the map. -/
def returned? : Call → Option (String × Except DeliveryError Handle)
  | .tracked name result => some (Track.normalize name, result)
  | _ => none

/-- The call has marked the session closed. -/
def closing : Call → Bool
  | .revoking | .draining | .muting _ | .left => true
  | _ => false

/-- The call has cancelled every token. -/
def revoked : Call → Bool
  | .draining | .muting _ | .left => true
  | _ => false

/-- The call has emptied the map. -/
def drained : Call → Bool
  | .muting _ | .left => true
  | _ => false

def hasLeft : Call → Bool
  | .left => true
  | _ => false

def leaves : Call → Prompt → Bool
  | .muting [], .cue .go => true
  | _, _ => false

/-- The tracks that the call has taken off the map and is still to close. -/
def closes : Call → List Handle
  | .silencing h => [h]
  | .muting handles => handles
  | _ => []

def closesSession : Call → Bool
  | .shutting | .revoking | .draining | .muting _ | .left => true
  | _ => false

def closesTrack : Call → Bool
  | .unlisting _ | .silencing _ => true
  | _ => false

/-- The call is about to take one track off the map. -/
def unlists : Call → Bool
  | .unlisting _ => true
  | _ => false

/-- The next step of the call leaves the track of a name on the map. -/
def spares (name : String) : Call → Bool
  | .unlisting other => Track.normalize other ≠ name
  | .draining => false
  | _ => true

/-- A call that has just been made. -/
def fresh : Call → Bool
  | .looking _ | .unlisting _ | .shutting => true
  | _ => false

theorem of_fresh {c : Call} (hc : c.fresh = true) :
    c.hands = [] ∧ c.closing = false ∧ c.drained = false ∧ c.returned? = none := by
  cases c <;> first | exact ⟨rfl, rfl, rfl, rfl⟩ | cases hc

theorem eq_left {c : Call} (hc : c.hasLeft = true) : c = .left := by
  cases c <;> first | rfl | cases hc

/-- A step of a call, with all that lets it happen and all that it changes. -/
inductive Transition (s : Session) : Call → Prompt → Call → Session → Prop
  -- requests for a track
  | found {name : String} {h : Handle} (hl : s.tracks.lookup (Track.normalize name) = some h) :
      Transition s (.looking name) (.cue .go) (.tracked name (.ok h)) s
  | unseen {name : String} (hl : s.tracks.lookup (Track.normalize name) = none) :
      Transition s (.looking name) (.cue .go) (.unseen name) s
  | refused {name : String} (hclosed : s.closed = true) :
      Transition s (.unseen name) (.cue .go) (.tracked name (.error .roomClosed)) s
  | asked {name : String} (hopen : s.closed = false) :
      Transition s (.unseen name) (.cue .go) (.obtaining name (.publishing false)) s
  | obtain {name : String} {o : Obtain} {cue : Cue} {r : Obtain ⊕ Except DeliveryError Handle} {s' : Session}
      (ho : Obtain.Transition s name o cue r s') :
      Transition s (.obtaining name o) (.cue cue) (obtained name r) s'
  | dropped {name : String} {suspended : Bool} :
      Transition s (.obtaining name (.publishing suspended)) .drop .over s
  -- closing a track
  | unlisted {name : String} {h : Handle} (hl : s.tracks.lookup (Track.normalize name) = some h) :
      Transition s (.unlisting name) (.cue .go) (.silencing h) (s.unlist name).2
  | unlistedNone {name : String} (hl : s.tracks.lookup (Track.normalize name) = none) :
      Transition s (.unlisting name) (.cue .go) .over (s.unlist name).2
  | silenced {h : Handle} : Transition s (.silencing h) (.cue .go) .over (s.closeHandle h)
  -- closing the session
  | late (hclosed : s.closed = true) : Transition s .shutting (.cue .go) .over s
  | shut (hopen : s.closed = false) : Transition s .shutting (.cue .go) .revoking s.shut
  | revoked : Transition s .revoking (.cue .go) .draining s.revoke
  | drained : Transition s .draining (.cue .go) (.muting s.drain.1) s.drain.2
  | muted {handles : List Handle} {h : Handle} (hmem : h ∈ handles) :
      Transition s (.muting handles) (.mute h) (.muting (handles.erase h)) (s.closeHandle h)
  | departed : Transition s (.muting []) (.cue .go) .left s.depart

variable {s s' : Session} {c c' : Call} {p : Prompt} {rest : List Handle} {h : Handle} {name : String}

theorem transition_of_step (h : c.step s p = some (c', s')) : Transition s c p c' s' := by
  unfold step at h
  split at h
  · split at h <;> cases h
    · next hl => exact .found hl
    · next hl => exact .unseen hl
  · split at h <;> cases h
    · next hclosed => exact .refused hclosed
    · next hopen => exact .asked (Bool.eq_false_of_not_eq_true hopen)
  · obtain ⟨⟨r, s₁⟩, ho, heq⟩ := Option.map_eq_some_iff.1 h
    cases heq
    exact .obtain (Obtain.transition_of_step ho)
  · cases h
    exact .dropped
  · split at h <;> cases h
    · next heq =>
      obtain ⟨hl, rfl⟩ := Prod.mk.inj heq
      exact .unlisted hl
    · next heq =>
      obtain ⟨hl, rfl⟩ := Prod.mk.inj heq
      exact .unlistedNone hl
  · cases h
    exact .silenced
  · split at h <;> cases h
    · next hclosed => exact .late hclosed
    · next hopen => exact .shut (Bool.eq_false_of_not_eq_true hopen)
  · cases h
    exact .revoked
  · cases h
    exact .drained
  · split at h <;> cases h
    next hmem => exact .muted hmem
  · cases h
    exact .departed
  · cases h

/-! ## Calls that nobody interrupts -/

def Path (c : Call) (s : Session) (c' : Call) (s' : Session) : Prop :=
  Relation.ReflTransGen (fun a b : Call × Session => ∃ p, a.1.step a.2 p = some b) (c, s) (c', s')

theorem Path.head {p : Prompt} {c'' : Call} {s'' : Session} (hs : c.step s p = some (c', s'))
    (hp : Path c' s' c'' s'') : Path c s c'' s'' :=
  Relation.ReflTransGen.head ⟨p, hs⟩ hp

theorem path_obtain {r : Obtain ⊕ Except DeliveryError Handle} (ho : Obtain.asking.step s name .go = some (r, s')) :
    Path (.looking name) s (obtained name r) s' := by
  cases hl : s.tracks.lookup (Track.normalize name) with
  | some h =>
    have hlook : (looking name).step s (.cue .go) = some (.tracked name (.ok h), s) := by simp [step, hl]
    rw [Obtain.step, lookup, hl] at ho
    cases ho
    exact .head hlook .refl
  | none =>
    have hlook : (looking name).step s (.cue .go) = some (.unseen name, s) := by simp [step, hl]
    rw [Obtain.step, lookup, hl] at ho
    refine .head hlook ?_
    cases hclosed : s.closed with
    | true =>
      have hflag : (unseen name).step s (.cue .go) = some (.tracked name (.error .roomClosed), s) := by
        simp [step, hclosed]
      rw [hclosed] at ho
      cases ho
      exact .head hflag .refl
    | false =>
      have hflag : (unseen name).step s (.cue .go) = some (.obtaining name (.publishing false), s) := by
        simp [step, hclosed]
      rw [hclosed] at ho
      cases ho
      exact .head hflag .refl

theorem path_closeTrack (s : Session) (name : String) : Path (.unlisting name) s .over (s.closeTrack name) := by
  cases hl : s.tracks.lookup (Track.normalize name) with
  | some h =>
    have hunlist : (unlisting name).step s (.cue .go) = some (.silencing h, (s.unlist name).2) := by
      simp [step, unlist, hl]
    have hclose : s.closeTrack name = (s.unlist name).2.closeHandle h := by simp [closeTrack, unlist, hl]
    rw [hclose]
    exact .head hunlist (.head (p := .cue .go) rfl .refl)
  | none =>
    have hunlist : (unlisting name).step s (.cue .go) = some (.over, (s.unlist name).2) := by
      simp [step, unlist, hl]
    have hclose : s.closeTrack name = (s.unlist name).2 := by simp [closeTrack, unlist, hl]
    rw [hclose]
    exact .head hunlist .refl

theorem path_muting (handles : List Handle) (s : Session) :
    Path (.muting handles) s .left (handles.foldl closeHandle s).depart := by
  induction handles generalizing s with
  | nil => exact .head (p := .cue .go) rfl .refl
  | cons h handles ih =>
    have hmute : (muting (h :: handles)).step s (.mute h) = some (.muting handles, s.closeHandle h) := by
      simp [step]
    exact .head hmute (ih _)

theorem path_close (hopen : s.closed = false) : Path .shutting s .left s.close := by
  have hshut : shutting.step s (.cue .go) = some (.revoking, s.shut) := by simp [step, hopen]
  have hclose : s.close = (s.shut.revoke.drain.1.foldl closeHandle s.shut.revoke.drain.2).depart := by
    simp [close, hopen]
  rw [hclose]
  exact .head hshut (.head (p := .cue .go) rfl (.head (p := .cue .go) rfl (path_muting _ _)))

/-! ## What a step keeps -/

theorem hands_obtained (name : String) (r : Obtain ⊕ Except DeliveryError Handle) :
    (obtained name r).hands = Obtain.handsBehind r := by
  cases r <;> rfl

/-- Tracks pass between the map and one call, and the other tracks of the call stay where they are. -/
theorem Transition.passes (ht : Transition s c p c' s') :
    ∃ given taken kept, c.hands.Perm (given ++ kept) ∧ (taken ++ kept).Perm c'.hands ∧ s.Handling given s' taken := by
  have hsame : s'.tracks = s.tracks → s'.room = s.room → s.Handling [] s' [] := by
    intro htracks hroom
    exact .keep htracks (fun _ => by rw [hroom]) fun _ => by rw [hroom]
  cases ht with
  | found | unseen | refused | asked | dropped | late | shut | revoked =>
    exact ⟨[], [], [], .refl _, .refl _, hsame rfl rfl⟩
  | departed => exact ⟨[], [], [], .refl _, .refl _, .keep rfl (fun _ => rfl) fun _ => rfl⟩
  | @obtain name o _ r _ ho =>
    refine ⟨o.hands, Obtain.handsBehind r, [], ?_, ?_, ho.handling⟩
    · rw [List.append_nil]
      rfl
    · rw [List.append_nil, hands_obtained]
  | @unlisted name h hl => exact ⟨[], [h], [], .refl _, .refl _, .unlist hl rfl rfl⟩
  | unlistedNone hl => exact ⟨[], [], [], .refl _, .refl _, hsame (filter_of_lookup_none hl) rfl⟩
  | @silenced h => exact ⟨[h], [], [], .refl _, .refl _, .close rfl rfl⟩
  | drained =>
    refine ⟨[], _, [], .refl _, ?_, .empty rfl rfl⟩
    rw [List.append_nil]
    rfl
  | @muted handles h hmem => exact ⟨[h], [], handles.erase h, List.perm_cons_erase hmem, .refl _, .close rfl rfl⟩

theorem perm_rest {hands given kept : List Handle} (h : hands.Perm (given ++ kept)) (rest : List Handle) :
    (hands ++ rest).Perm (given ++ (kept ++ rest)) := by
  rw [← List.append_assoc]
  exact h.append_right rest

theorem Transition.custody (ht : Transition s c p c' s') (hc : s.Custody (c.hands ++ rest)) :
    s'.Custody (c'.hands ++ rest) := by
  obtain ⟨given, taken, kept, hgiven, htaken, hh⟩ := ht.passes
  exact ((hc.perm (perm_rest hgiven rest)).handling hh).perm (perm_rest htaken.symm rest).symm

theorem Transition.answered (ht : Transition s c p c' s') (ha : s.Answered (c.hands ++ rest)) :
    s'.Answered (c'.hands ++ rest) := by
  obtain ⟨given, taken, kept, hgiven, htaken, hh⟩ := ht.passes
  exact ((ha.perm (perm_rest hgiven rest)).handling hh).perm (perm_rest htaken.symm rest).symm

theorem Transition.hasClosed (ht : Transition s c p c' s') (hc : s.room.hasClosed h = true) :
    s'.room.hasClosed h = true := by
  obtain ⟨_, _, _, -, -, hh⟩ := ht.passes
  exact hh.hasClosed hc

theorem Transition.framesOf (ht : Transition s c p c' s') (h : Handle) : s'.room.framesOf h = s.room.framesOf h := by
  cases ht with
  | obtain ho => exact ho.framesOf h
  | silenced | muted => exact s.room.framesOf_closeTrack _ h
  | departed => exact s.room.framesOf_disconnect h
  | _ => rfl

theorem Transition.closed (ht : Transition s c p c' s') (hc : s.closed = true) : s'.closed = true := by
  cases ht with
  | obtain ho => rw [ho.sameSlots.1.closed, hc]
  | shut => rfl
  | _ => exact hc

theorem Transition.closing (ht : Transition s c p c' s') (hc : c.closing = true → s.closed = true)
    (hc' : c'.closing = true) : s'.closed = true := by
  cases ht with
  | @obtain _ _ _ r => cases r <;> cases hc'
  | shut => rfl
  | revoked | drained | muted | departed => exact hc rfl
  | _ => cases hc'

theorem Transition.closesSession (ht : Transition s c p c' s') (hc' : c'.closesSession = true) :
    c.closesSession = true := by
  cases ht with
  | @obtain _ _ _ r => cases r <;> cases hc'
  | shut | revoked | drained | muted | departed => rfl
  | _ => cases hc'

theorem Transition.of_left (ht : Transition s c p .left s') : s' = s.depart := by
  generalize hleft : Call.left = c' at ht
  cases ht with
  | @obtain _ _ _ r => cases r <;> cases hleft
  | departed => rfl
  | _ => cases hleft

theorem Transition.unfinished (ht : Transition s c p c' s') : c.isDone = false := by
  cases ht <;> rfl

theorem Transition.closesTrack (ht : Transition s c p c' s') (hc' : c'.closesTrack = true) : c.closesTrack = true := by
  cases ht with
  | @obtain _ _ _ r => cases r <;> cases hc'
  | unlisted => rfl
  | _ => cases hc'

theorem Transition.spent (ht : Transition s c p c' s') (hs : s.Spent) : s'.Spent := by
  refine ⟨ht.closed hs.closed, ?_⟩
  cases ht with
  | obtain ho =>
    cases ho with
    | enlisted =>
      -- the flag is read again where the track would be put on the map
      rw [enlist, if_pos hs.closed]
      exact hs.tracks
    | _ => exact hs.tracks
  | unlisted | unlistedNone => simp [unlist, hs.tracks]
  | drained => rfl
  | _ => exact hs.tracks

/-- The map is empty behind the step in which a call empties it, and stays empty. -/
theorem Transition.spent_of_drained (ht : Transition s c p c' s') (hclosing : c.closing = true → s.closed = true)
    (hdrained : c.drained = true → s.Spent) (hc' : c'.drained = true) : s'.Spent := by
  cases ht with
  | @obtain _ _ _ r => cases r <;> cases hc'
  | drained => exact ⟨hclosing rfl, rfl⟩
  | muted | departed => exact ⟨(hdrained rfl).closed, (hdrained rfl).tracks⟩
  | _ => cases hc'

theorem Transition.mem_tracks (ht : Transition s c p c' s') (hspares : c.spares name = true)
    (hmem : (name, h) ∈ s.tracks) : (name, h) ∈ s'.tracks := by
  cases ht with
  | obtain ho => exact ho.mem_tracks hmem
  | unlisted | unlistedNone =>
    have hother : Track.normalize _ ≠ name := of_decide_eq_true hspares
    exact List.mem_filter.2 ⟨hmem, decide_eq_true hother.symm⟩
  | drained => cases hspares
  | _ => exact hmem

theorem Transition.returned (ht : Transition s c p c' s') : c.returned? = none := by
  cases ht <;> rfl

/-- A request for a track returns one that is on the map, or fails as the room does, or in a closed session. -/
theorem Transition.result {result : Except DeliveryError Handle} (ht : Transition s c p c' s')
    (hr : c'.returned? = some (name, result)) :
    (∃ h, result = .ok h ∧ (name, h) ∈ s'.tracks) ∨
      (∃ cause, result = .error cause ∧ p = .cue (.published (.error cause))) ∨
        result = .error .roomClosed ∧ s.closed = true := by
  cases ht with
  | found hl =>
    cases hr
    exact .inl ⟨_, rfl, mem_of_lookup hl⟩
  | refused hclosed =>
    cases hr
    exact .inr (.inr ⟨rfl, hclosed⟩)
  | @obtain name o cue r _ ho =>
    cases r with
    | inl o => cases hr
    | inr result =>
      cases hr
      cases result with
      | ok h => exact .inl ⟨h, rfl, ho.mem_of_ok⟩
      | error cause =>
        right
        rcases ho.of_error with rfl | ⟨rfl, hclosed⟩
        · exact .inl ⟨cause, rfl, rfl⟩
        · exact .inr ⟨rfl, hclosed⟩
  | _ => cases hr

end Call

end Playout.Session
