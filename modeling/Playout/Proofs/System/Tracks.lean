import Mathlib
import Playout.Proofs.System.Turns

/-!
# Tracks are accounted for

Between its steps a playback that has obtained a track leaves it on the map, under its name, until it takes it
off and closes it. Others may take it off before, and somebody may have another one enlisted under the name, but
whoever takes a track off the map goes on to close it. So the track of a playback is closed, or on the map, or about
to be closed by that playback or by some call (`Session.Keeps`). Once the playback is behind the lease it is closed,
unless a call has it in hand (`Session.Keeps.closed_of_idle`).
-/

namespace Playout

/-- In this stage a playback leaves the track that it obtained to the map. -/
def Task.Stage.listed : Task.Stage → Bool
  | .starting | .waiting | .silencing .. | .releasing _ | .retiring _ | .reporting _ | .ended _ => false
  | _ => true

theorem Task.working_of_listed {t : Task} (h : t.stage.listed = true) : t.phase = .working := by
  unfold Task.phase
  cases hstage : t.stage <;> first | rfl | simp [hstage, Task.Stage.listed] at h

/-- Some call took a track off the map and is still to close it. -/
def Session.Handed (calls : List Session.Call) (h : Handle) : Prop := ∃ c ∈ calls, h ∈ c.closes

/-- The track of a playback is closed, or on the map, or about to be closed by the playback or by some call. -/
inductive Session.Keeps (s : Session) (calls : List Session.Call) (t : Task) (h : Handle) : Prop
  | closed (hc : s.room.hasClosed h = true)
  | listed (hstage : t.stage.listed = true) (hmem : (Track.normalize t.trackName, h) ∈ s.tracks)
  | silencing {ending : Ending} (hstage : t.stage = .silencing h ending)
  | handed (hh : Session.Handed calls h)

namespace Session

variable {s s' : Session} {calls calls' : List Call} {t : Task} {h : Handle}

theorem Keeps.mono (hk : s.Keeps calls t h) (hclosed : s.room.hasClosed h = true → s'.room.hasClosed h = true)
    (hmem : t.phase = .working → (Track.normalize t.trackName, h) ∈ s.tracks →
      (Track.normalize t.trackName, h) ∈ s'.tracks ∨ Handed calls' h)
    (hhanded : Handed calls h → Handed calls' h ∨ s'.room.hasClosed h = true) : s'.Keeps calls' t h := by
  cases hk with
  | closed hc => exact .closed (hclosed hc)
  | listed hstage hlisted =>
    rcases hmem (Task.working_of_listed hstage) hlisted with hlisted | hh
    · exact .listed hstage hlisted
    · exact .handed hh
  | silencing hstage => exact .silencing hstage
  | handed hh =>
    rcases hhanded hh with hh | hc
    · exact .handed hh
    · exact .closed hc

theorem Keeps.of_same (hk : s.Keeps calls t h) (hs : s.SameTracks s') (hcalls : calls ⊆ calls') :
    s'.Keeps calls' t h := by
  apply hk.mono
  · intro hc
    rwa [hs.room]
  · intro _ hmem
    rw [hs.tracks]
    exact .inl hmem
  · rintro ⟨c, hc, hh⟩
    exact .inl ⟨c, hcalls hc, hh⟩

theorem Keeps.closed_of_idle (hk : s.Keeps calls t h) (hidle : t.phase ≠ .working) :
    s.room.hasClosed h = true ∨ Handed calls h := by
  cases hk with
  | closed hc => exact .inl hc
  | listed hstage => exact absurd (Task.working_of_listed hstage) hidle
  | silencing hstage => exact absurd (Task.phase_of_stage hstage) hidle
  | handed hh => exact .inr hh

end Session

/-! ## A step of a call -/

namespace Session.Call

variable {s s' : Session} {c c' : Call} {p : Prompt} {name : String} {h : Handle}

theorem Transition.mem_tracks_or_closes (ht : Transition s c p c' s') (hn : (s.tracks.map Prod.fst).Nodup)
    (hmem : (name, h) ∈ s.tracks) : (name, h) ∈ s'.tracks ∨ h ∈ c'.closes := by
  cases ht with
  | obtain ho => exact .inl (ho.mem_tracks hmem)
  | @unlisted other k hl =>
    by_cases hname : name = Track.normalize other
    · subst hname
      obtain rfl : k = h := Option.some.inj (hl.symm.trans (lookup_of_mem hn hmem))
      exact .inr (List.mem_singleton.2 rfl)
    · exact .inl (List.mem_filter.2 ⟨hmem, decide_eq_true hname⟩)
  | unlistedNone hl =>
    left
    rwa [show (s.unlist _).2.tracks = s.tracks from filter_of_lookup_none hl]
  | drained => exact .inr (List.mem_map.2 ⟨_, hmem, rfl⟩)
  | _ => exact .inl hmem

theorem Transition.closes_or_hasClosed (ht : Transition s c p c' s') (hopen : s.room.isClosed h = false)
    (hh : h ∈ c.closes) : h ∈ c'.closes ∨ s'.room.hasClosed h = true := by
  cases ht with
  | silenced =>
    obtain rfl := List.mem_singleton.1 hh
    exact .inr (Room.hasClosed_closeTrack_self hopen)
  | @muted handles k hmem =>
    by_cases hk : k = h
    · subst hk
      exact .inr (Room.hasClosed_closeTrack_self hopen)
    · exact .inl ((List.mem_erase_of_ne (Ne.symm hk)).2 hh)
  | _ => cases hh

theorem closes_subset (c : Call) : c.closes ⊆ c.hands := by
  cases c <;> simp [closes, hands]

end Session.Call

/-! ## A step of a playback -/

namespace Task

variable {s s' : Session} {m m' : Counters} {t t' : Task} {cue : Cue} {h : Handle} {rest : List Handle}
  {calls : List Session.Call}

/-- A playback that looks for a track has none. -/
def Seeking (t : Task) : Prop := ∀ o, t.stage = .obtaining o → t.track = none

theorem listed_of_plain (h : t.stage.plain = true) : t.stage.listed = true := by
  cases hstage : t.stage <;> first | rfl | simp [hstage, Stage.plain] at h

theorem seeking_of_plain (h : t.stage.plain = true) : t.Seeking := by
  intro o hstage
  rw [hstage] at h
  cases h

theorem keeps_of_listed (hk : s.Keeps calls t h) (hstage : t.stage.listed = true) (hstage' : t'.stage.listed = true)
    (hname : t'.trackName = t.trackName) (hclosed : s.room.hasClosed h = true → s'.room.hasClosed h = true)
    (hmem : ∀ entry ∈ s.tracks, entry ∈ s'.tracks) : s'.Keeps calls t' h := by
  cases hk with
  | closed hc => exact .closed (hclosed hc)
  | listed _ hlisted =>
    have hlisted' : (Track.normalize t'.trackName, h) ∈ s'.tracks := by
      rw [hname]
      exact hmem _ hlisted
    exact .listed hstage' hlisted'
  | silencing hsilencing =>
    rw [hsilencing] at hstage
    cases hstage
  | handed hh => exact .handed hh

theorem Transition.track (ht : Transition s m t cue t' s' m') :
    t'.track = t.track ∨ ∃ o, t.stage = .obtaining o := by
  cases ht with
  | answered => exact .inl (t.onward_receive _).track
  | heard => exact .inl (t.onward_hear _ _).track
  | exhausted => exact .inl t.onward_flush.track
  | delivered =>
    left
    split <;> rfl
  | reuse _ _ _ htrack => exact .inl htrack.symm
  | obtaining hstage | obtained hstage | unobtained hstage => exact .inr ⟨_, hstage⟩
  | _ => exact .inl rfl

theorem Transition.track_of_some (ht : Transition s m t cue t' s' m') (hseeking : t.Seeking)
    (htrack : t.track = some h) : t'.track = some h := by
  rcases ht.track with heq | ⟨o, hstage⟩
  · rw [heq, htrack]
  · cases (hseeking o hstage).symm.trans htrack

theorem Transition.seeking (ht : Transition s m t cue t' s' m') (hseeking : t.Seeking) : t'.Seeking := by
  cases ht with
  | seek _ _ _ htrack => exact fun _ _ => htrack
  | resumePublishing hstage | obtaining hstage => exact fun _ _ => hseeking _ hstage
  | answered => exact seeking_of_plain (t.onward_receive _).plain
  | heard => exact seeking_of_plain (t.onward_hear _ _).plain
  | exhausted => exact seeking_of_plain t.onward_flush.plain
  | reuse | obtained => exact seeking_of_plain (t.plain_withTrack _)
  | delivered | booked =>
    apply seeking_of_plain
    split <;> rfl
  | ask =>
    intro o hstage
    split at hstage <;> cases hstage
  | _ =>
    intro o hstage
    cases hstage

theorem Transition.keeps (ht : Transition s m t cue t' s' m') (hc : s.Custody (t.hands ++ rest))
    (hk : ∀ h, t.track = some h → s.Keeps calls t h) : ∀ h, t'.track = some h → s'.Keeps calls t' h := by
  intro h htrack
  have hclosed : s.room.hasClosed h = true → s'.room.hasClosed h = true := ht.handling.hasClosed
  have hname := ht.same.trackName
  -- a step between stages that leave the track to the map
  have honward : t.stage.listed = true → t'.stage.listed = true → t'.track = t.track →
      (∀ entry ∈ s.tracks, entry ∈ s'.tracks) → s'.Keeps calls t' h := by
    intro hstage hstage' heq hmem
    exact keeps_of_listed (hk h (heq ▸ htrack)) hstage hstage' hname hclosed hmem
  cases ht with
  | quit hstage | ask hstage | quitWaiting hstage | granted hstage | retired hstage | reported hstage =>
    have hidle : t.phase ≠ .working := by
      rw [phase_of_stage hstage]
      simp [Stage.phase]
    exact ((hk h htrack).closed_of_idle hidle).elim (fun hc => .closed (hclosed hc)) .handed
  | stopFetching hstage | stopListening hstage | stopDelivering hstage | seek hstage | stopPublishing hstage
  | resumePublishing hstage | stopHolding hstage | due hstage | stopWriting hstage | suspend hstage | resume hstage
  | unwritten hstage | written hstage | counted hstage | recorded hstage =>
    exact honward (by rw [hstage]; rfl) rfl rfl fun _ hmem => hmem
  | answered hstage =>
    have honw := t.onward_receive
    exact honward (by rw [hstage]; rfl) (listed_of_plain (honw _).plain) (honw _).track fun _ hmem => hmem
  | heard hstage =>
    have honw := t.onward_hear
    exact honward (by rw [hstage]; rfl) (listed_of_plain (honw _ _).plain) (honw _ _).track fun _ hmem => hmem
  | exhausted hstage =>
    have honw := t.onward_flush
    exact honward (by rw [hstage]; rfl) (listed_of_plain honw.plain) honw.track fun _ hmem => hmem
  | delivered hstage =>
    refine honward (by rw [hstage]; rfl) ?_ ?_ fun _ hmem => hmem
    · split <;> rfl
    · split <;> rfl
  | booked hstage =>
    refine honward (by rw [hstage]; rfl) ?_ rfl fun _ hmem => hmem
    exact listed_of_plain (by split <;> rfl)
  | reuse hstage _ _ htrack' =>
    exact honward (by rw [hstage]; rfl) (listed_of_plain (t.plain_withTrack _)) htrack'.symm fun _ hmem => hmem
  | obtaining hstage _ ho | unobtained hstage _ ho =>
    exact honward (by rw [hstage]; rfl) rfl rfl fun _ hmem => ho.mem_tracks hmem
  | obtained hstage _ ho =>
    cases htrack
    exact .listed (listed_of_plain (t.plain_withTrack _)) ho.mem_of_ok
  | @unlisted k ending hstage hl =>
    cases hk h htrack with
    | closed hc => exact .closed hc
    | listed _ hmem =>
      obtain rfl : k = h := Option.some.inj (hl.symm.trans (Session.lookup_of_mem hc.names hmem))
      exact .silencing rfl
    | silencing hsilencing => cases hstage.symm.trans hsilencing
    | handed hh => exact .handed hh
  | unlistedNone hstage hl =>
    cases hk h htrack with
    | closed hc => exact .closed hc
    | listed _ hmem => cases hl.symm.trans (Session.lookup_of_mem hc.names hmem)
    | silencing hsilencing => cases hstage.symm.trans hsilencing
    | handed hh => exact .handed hh
  | @silenced k ending hstage =>
    cases hk h htrack with
    | closed hc => exact .closed (Room.hasClosed_closeTrack k hc)
    | listed hlisted =>
      rw [hstage] at hlisted
      cases hlisted
    | silencing hsilencing =>
      cases hstage.symm.trans hsilencing
      have hmem : h ∈ t.hands ++ rest := by
        rw [hands_of_stage hstage]
        exact List.mem_append_left _ (List.mem_singleton.2 rfl)
      exact .closed (Room.hasClosed_closeTrack_self (hc.isOpen h (List.mem_append_right _ hmem)))
    | handed hh => exact .handed hh
  | released hstage =>
    cases hk h htrack with
    | closed hc => exact .closed hc
    | listed hlisted =>
      rw [hstage] at hlisted
      cases hlisted
    | silencing hsilencing => cases hstage.symm.trans hsilencing
    | handed hh => exact .handed hh

end Task

end Playout
