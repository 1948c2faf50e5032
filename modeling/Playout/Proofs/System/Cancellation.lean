import Mathlib
import Playout.Proofs.System.Delivery
import Playout.Proofs.System.Recovery
import Playout.Proofs.System.Watch

/-!
# Playbacks that are cancelled

A playback that is told to end is meant to be cancelled and not to fail. Where its source can be played, the room does
not fail by itself and nobody else closes tracks of its session (`System.spares`), it does not fail whatever happens
beside it, with one exception: its session may be marked closed when it has looked at its token and is about to call
the session or the room (`System.timely`), which then refuse it (`System.failures_are_late`).
-/

namespace Playout

theorem partOf_key_ne {α β : Type} {l : List (Nat × α)} {n j k : Nat} {a b : α} {f : α → β}
    (hn : ((partOf n l).map f).Nodup) (hj : l[j]? = some (n, a)) (hk : l[k]? = some (n, b)) (hne : j ≠ k) :
    f a ≠ f b := by
  rw [List.Nodup, List.pairwise_map, partOf, List.pairwise_filterMap, List.pairwise_iff_getElem] at hn
  obtain ⟨hj, ha⟩ := List.getElem?_eq_some_iff.1 hj
  obtain ⟨hk, hb⟩ := List.getElem?_eq_some_iff.1 hk
  rcases Nat.lt_or_gt_of_ne hne with hlt | hlt
  · exact hn j k hj hk hlt a (by simp [ha]) b (by simp [hb])
  · exact (hn k j hk hj hlt b (by simp [hb]) a (by simp [ha])).symm

namespace Studio

variable {config : Config} {st st' : Studio}

theorem Step.heardBy_mono (h : Step config st st') (i : Nat) : st.heardBy i <+: st'.heardBy i := by
  obtain ⟨notes, hlog, -⟩ := h.log
  rw [heardBy, heardBy, hlog, List.filterMap_append]
  exact List.prefix_append _ _

theorem heardBy_mono_of_steps (h : Relation.ReflTransGen (Step config) st st') (i : Nat) :
    st.heardBy i <+: st'.heardBy i := by
  induction h with
  | refl => exact List.prefix_rfl
  | tail _ hs ih => exact ih.trans (hs.heardBy_mono i)

end Studio

namespace System

variable {σ : System} {n k : Nat} {st : Studio} {t : Task}

/-! ## What is asked of a run -/

/-- Every move of a run is of a kind, in the state in which it is made. -/
def along (P : System → Move → Bool) : System → List Move → Bool
  | _, [] => true
  | σ, m :: moves => P σ m && along P (σ.step m) moves

/-- The move spares a playback: neither its source nor the room fails by itself, and no call takes a single track of
its session off the map. -/
def spares (k : Nat) (σ : System) (m : Move) : Bool :=
  match σ.service.tasks[k]?, m with
  | some (n, t), .play j cue => j ≠ k || σ.service.sessions[n]?.all fun s => t.spared s cue
  | some (n, _), .proceed i _ => σ.calls[i]?.all fun (n', c) => n' ≠ n || !c.unlists
  | _, _ => true

/-- Behind the move the playback is not about to call a session that is marked closed without looking at its token. -/
def timely (k : Nat) (σ : System) (m : Move) : Bool :=
  (σ.step m).service.tasks[k]?.all fun (n, t) => !t.stage.unwatched || !(σ.step m).isClosed n

theorem along_append (P : System → Move → Bool) (σ : System) (moves more : List Move) :
    along P σ (moves ++ more) = (along P σ moves && along P (σ.run moves) more) := by
  induction moves generalizing σ with
  | nil => rfl
  | cons m moves ih => simp only [List.cons_append, along, ih, Bool.and_assoc, run, List.foldl_cons]

theorem along_concat {P : System → Move → Bool} {moves : List Move} {m : Move} :
    along P σ (moves ++ [m]) = true ↔ along P σ moves = true ∧ P (σ.run moves) m = true := by
  simp [along_append, along]

theorem along_earlier {P : System → Move → Bool} {moves more : List Move} (hp : moves <+: more)
    (h : along P σ more = true) : along P σ moves = true := by
  obtain ⟨rest, rfl⟩ := hp
  rw [along_append, Bool.and_eq_true] at h
  exact h.1

/-! ## Moves beside a playback -/

theorem mem_tasks_of_place (hst : σ.studio n = some st) (hk : σ.service.tasks[k]? = some (n, t)) : t ∈ st.tasks := by
  rw [← (Floor.studio_eq_some.1 hst).2.1]
  exact mem_partOf.2 (List.mem_of_getElem? hk)

/-- A playback is changed by its own moves only. -/
theorem place_beside (hk : σ.service.tasks[k]? = some (n, t)) {m : Move} (hm : ∀ cue, m ≠ .play k cue) :
    (σ.step m).service.tasks[k]? = some (n, t) := by
  have hstep := σ.step_spec m
  generalize σ.step m = σ' at hstep ⊢
  cases hstep with
  | accepted => exact (List.getElem?_append_left (List.getElem?_eq_some_iff.1 hk).1).trans hk
  | @played j _ cue =>
    have hne : j ≠ k := by
      rintro rfl
      exact hm cue rfl
    exact (List.getElem?_set_ne hne).trans hk
  | shutting | closing | closingTrack => simpa only [service_dial] using hk
  | _ => exact hk

theorem new_of_step {m : Move} (hnone : σ.service.tasks[k]? = none)
    (hk : (σ.step m).service.tasks[k]? = some (n, t)) :
    ∃ slot url request, t = Task.new σ.service.config slot url request := by
  have hstep := σ.floor_step m
  generalize hf : σ.floor = f, hf' : (σ.step m).floor = f' at hstep
  have hnone' : f.tasks[k]? = none := by rw [← hf]; exact hnone
  have hk' : f'.tasks[k]? = some (n, t) := by rw [← hf']; exact hk
  cases hstep with
  | rest | opened | changed | called | attended | dialed | proceeded => cases hnone'.symm.trans hk'
  | accepted hs url request =>
    rw [List.getElem?_eq_none_iff] at hnone'
    rw [List.getElem?_append_right hnone', List.getElem?_singleton] at hk'
    split at hk'
    · obtain ⟨-, rfl⟩ := Prod.mk.inj (Option.some.inj hk')
      exact ⟨_, url, request, by rw [← hf]; rfl⟩
    · cases hk'
  | played =>
    rw [List.getElem?_eq_none_iff] at hnone'
    rw [List.getElem?_eq_none (by simpa using hnone')] at hk'
    cases hk'

theorem retains_modify {sessions : List Session} {s s' : Session} {n' : Nat} {f : Session → Session}
    (hs : sessions[n]? = some s) (hf : n' = n → s.Retains (f s)) (hs' : (sessions.modify n' f)[n]? = some s') :
    s.Retains s' := by
  rw [List.getElem?_modify, hs] at hs'
  split at hs'
  · next heq =>
    obtain rfl := Option.some.inj hs'
    exact hf heq
  · obtain rfl := Option.some.inj hs'
    exact .of_tracks rfl

/-- While a playback works, others take no track off the map before they have cancelled its token. -/
theorem retains_step (hin : st.InOrder) (hst : σ.studio n = some st) (hk : σ.service.tasks[k]? = some (n, t))
    (hworking : t.phase = .working) {m : Move} (hm : ∀ cue, m ≠ .play k cue) (hspares : σ.spares k m = true)
    {s' : Session} (hs' : (σ.step m).service.sessions[n]? = some s') : st.session.Retains s' := by
  obtain ⟨hs, htasks, -, hcalls, -⟩ := Floor.studio_eq_some.1 hst
  have hs : σ.service.sessions[n]? = some st.session := hs
  have hsame : σ.service.sessions[n]? = some s' → st.session.Retains s' := by
    intro heq
    obtain rfl := Option.some.inj (hs.symm.trans heq)
    exact .of_tracks rfl
  -- somebody works in one session
  have hwork : ∀ {k : Nat} {s₁ s₂ : Session}, σ.service.sessions[k]? = some s₁ → (k = n → s₁.Retains s₂) →
      (σ.service.sessions.modify k fun _ => s₂)[n]? = some s' → st.session.Retains s' := by
    intro k s₁ s₂ hs₁ hretains
    refine retains_modify hs ?_
    rintro rfl
    obtain rfl := Option.some.inj (hs.symm.trans hs₁)
    exact hretains rfl
  have hstep := σ.step_spec m
  generalize σ.step m = σ' at hstep hs'
  cases hstep with
  | opened =>
    rw [List.getElem?_append_left (List.getElem?_eq_some_iff.1 hs).1] at hs'
    exact hsame hs'
  | @accepted _ _ _ _ s _ hn => exact hwork hn (fun _ => .of_tracks s.sameTracks_begin.tracks) hs'
  | @played j _ cue u _ _ _ _ hj hn hu =>
    have hne : j ≠ k := by
      rintro rfl
      exact hm cue rfl
    refine hwork hn ?_ hs'
    rintro rfl
    -- the other playback of the session does not work
    have hidle : u.phase ≠ .working := by
      intro huw
      have hslots : ((partOf _ σ.service.tasks).map (·.slot)).Nodup := htasks ▸ hin.placed.nodup
      refine partOf_key_ne hslots hj hk hne ?_
      rw [hin.queued.eq_of_working hin.placed (mem_tasks_of_place hst hj) (mem_tasks_of_place hst hk) huw hworking]
    exact .of_tracks ((Task.transition_of_step hu).room_of_idle hidle).1
  | @proceeded i _ p c _ s _ hi hn hc =>
    refine hwork hn ?_ hs'
    rintro rfl
    obtain rfl := Option.some.inj (hs.symm.trans hn)
    have hc := Session.Call.transition_of_step hc
    have hmem : c ∈ st.calls := by
      rw [← hcalls]
      exact mem_partOf.2 (List.mem_of_getElem? hi)
    intro hlive entry hentry
    refine hc.mem_tracks ?_ hentry
    cases c with
    | unlisting => simp [spares, hk, hi, Session.Call.unlists] at hspares
    | draining => cases (hc.revoked_mono (hin.marked.revoked _ hmem rfl)).symm.trans hlive
    | _ => rfl
  | attended _ hn he =>
    refine hwork hn (fun _ _ entry hmem => ?_) hs'
    exact (Errand.transition_of_step he).mem_tracks hmem
  | stopped => exact retains_modify hs (fun _ => .of_tracks st.session.sameTracks_preempt.tracks) hs'
  | cancelled | offered | taken | received | dropped => exact retains_modify hs (fun _ => .of_tracks rfl) hs'
  | shutting | closing | closingTrack =>
    simp only [service_dial] at hs'
    exact hsame hs'
  | _ => exact hsame hs'

/-! ## Runs -/

section

variable {config : Config} {late : Prop} {st' : Studio} {t' : Task} {m : Move} {reel : Reel}

theorem favours_play (hreachable : Studio.Reachable config st) (hst : σ.studio n = some st)
    (hk : σ.service.tasks[k]? = some (n, t)) (h : st.session.Favours late t) {cue : Cue}
    (hspares : σ.spares k (.play k cue) = true) (hst' : (σ.step (.play k cue)).studio n = some st')
    (hk' : (σ.step (.play k cue)).service.tasks[k]? = some (n, t')) (hreel : st'.heardBy t'.slot <+: reel.cues)
    (hquiet : ∀ cause, some (.failed cause) ∉ st'.heardBy t'.slot)
    (hwatched : t'.stage.unwatched = true → ¬late → st'.session.closed = false) : st'.session.Favours late t' := by
  have hin := hreachable.inOrder
  have hcourse := hreachable.onCourse
  obtain ⟨hs, -, -, -, hlog⟩ := Floor.studio_eq_some.1 hst
  have hs : σ.service.sessions[n]? = some st.session := hs
  have hstep := σ.step_spec (.play k cue)
  generalize σ.step (.play k cue) = σ' at hstep hst' hk'
  cases hstep with
  | idle =>
    obtain rfl := Option.some.inj (hst.symm.trans hst')
    obtain rfl := (Prod.mk.inj (Option.some.inj (hk.symm.trans hk'))).2
    exact h
  | @played _ n₁ _ t₀ t₁ s₀ s₁ m₁ hk₁ hs₁ ht =>
    obtain ⟨rfl, rfl⟩ : n = n₁ ∧ t = t₀ := Prod.mk.inj (Option.some.inj (hk.symm.trans hk₁))
    obtain rfl : s₀ = st.session := Option.some.inj (hs₁.symm.trans hs)
    have ht := Task.transition_of_step ht
    obtain ⟨hs', -, -, -, hlog'⟩ := Floor.studio_eq_some.1 hst'
    obtain rfl : t₁ = t' := by
      have hset := List.getElem?_set_self (a := (n, t₁)) (List.getElem?_eq_some_iff.1 hk).1
      exact (Prod.mk.inj (Option.some.inj (hset.symm.trans hk'))).2
    obtain rfl : s₁ = st'.session := by simpa [floor, hs] using hs'
    have hlog₁ : st'.log = st.log ++ t.notes st.session cue t₁ := by
      rw [← hlog', ← hlog]
      simp [floor]
    refine ht.favours h hin.placed.inOrder hin.accounted.custody ?_ ?_ hwatched
    · simpa [spares, hk, hs] using hspares
    · rintro event rfl hstage hlive
      have hheard : st'.heardBy t.slot = st.heardBy t.slot ++ [some event] := by
        have hnotes : t.notes st.session (.event event) t₁ = [.heard t.slot (some event)] := by
          simp only [Task.notes, hstage, hlive]
        rw [Studio.heardBy, hlog₁, hnotes, List.filterMap_append]
        simp [Studio.heardBy, Note.heardBy]
      rw [ht.same.slot, hheard] at hreel hquiet
      have hown := hcourse.course t (mem_tasks_of_place hst hk) reel ((List.prefix_append _ _).trans hreel)
      rw [hcourse.frameSamples]
      refine hown.outcome_hear hstage hreel ?_
      rintro cause rfl
      exact hquiet cause (List.mem_append_right _ (List.mem_singleton.2 rfl))

theorem favours_step (hsound : σ.Sound config) (hst : σ.studio n = some st)
    (hk : σ.service.tasks[k]? = some (n, t)) (h : st.session.Favours late t) (hspares : σ.spares k m = true)
    (htimely : ¬late → σ.timely k m = true) (hst' : (σ.step m).studio n = some st')
    (hk' : (σ.step m).service.tasks[k]? = some (n, t')) (hreel : st'.heardBy t'.slot <+: reel.cues)
    (hquiet : ∀ cause, some (.failed cause) ∉ st'.heardBy t'.slot) : st'.session.Favours late t' := by
  have hreachable := hsound.reachable n st hst
  have hs' : (σ.step m).service.sessions[n]? = some st'.session := (Floor.studio_eq_some.1 hst').1
  have hwatched : t'.stage.unwatched = true → ¬late → st'.session.closed = false := by
    intro hstage hlate
    have h := htimely hlate
    simpa [timely, hk', hstage, isClosed_of_session hs'] using h
  by_cases hm : ∃ cue, m = .play k cue
  · obtain ⟨cue, rfl⟩ := hm
    exact favours_play hreachable hst hk h hspares hst' hk' hreel hquiet hwatched
  · have hm : ∀ cue, m ≠ .play k cue := fun cue heq => hm ⟨cue, heq⟩
    obtain rfl : t = t' := (Prod.mk.inj (Option.some.inj ((place_beside hk hm).symm.trans hk'))).2
    obtain ⟨st₁, hst₁, hstep⟩ := σ.studio_step m hst
    obtain rfl : st₁ = st' := Option.some.inj (hst₁.symm.trans hst')
    refine h.beside ?_ ?_ hwatched ?_
    · intro hclosed
      cases hstep with
      | refl => exact hclosed
      | single hstep => exact hstep.closed hclosed
    · intro hrevoked
      cases hstep with
      | refl => exact hrevoked
      | single hstep => exact hstep.revoked hrevoked
    · intro hworking
      exact retains_step hreachable.inOrder hst hk hworking hm hspares hs'

variable {moves before : List Move}

theorem place_earlier (hp : before <+: moves) (hst : ((System.new config).run moves).studio n = some st)
    (hk : ((System.new config).run moves).service.tasks[k]? = some (n, t)) {n₀ : Nat} {t₀ : Task}
    (hk₀ : ((System.new config).run before).service.tasks[k]? = some (n₀, t₀)) :
    n₀ = n ∧ t.slot = t₀.slot ∧
      ∃ st₀, ((System.new config).run before).studio n = some st₀ ∧ ∀ i, st₀.heardBy i <+: st.heardBy i := by
  obtain ⟨more, rfl⟩ := hp
  rw [run_append] at hst hk
  obtain ⟨t₁, hk₁, hslot⟩ := ((System.new config).run before).place_of_run more hk₀
  obtain ⟨rfl, rfl⟩ : n₀ = n ∧ t₁ = t := Prod.mk.inj (Option.some.inj (hk₁.symm.trans hk))
  have hlt : n₀ < ((System.new config).run before).floor.sessions.length :=
    ((Sound.new config).run before).numbered.tasks _ (List.mem_of_getElem? hk₀)
  obtain ⟨st₀, hst₀⟩ : ∃ st₀, ((System.new config).run before).studio n₀ = some st₀ :=
    ⟨_, by rw [studio, Floor.studio, List.getElem?_eq_getElem hlt, Option.map_some]⟩
  obtain ⟨st₁, hst₁, hsteps⟩ := ((System.new config).run before).steps_of_run more hst₀
  obtain rfl : st₁ = st := Option.some.inj (hst₁.symm.trans hst)
  exact ⟨rfl, hslot, st₀, hst₀, Studio.heardBy_mono_of_steps hsteps⟩

/-- A playback that is spared in a run is kept from failing, unless it was told late. -/
theorem favours_of_run (hst : ((System.new config).run moves).studio n = some st)
    (hk : ((System.new config).run moves).service.tasks[k]? = some (n, t)) (hreel : st.heardBy t.slot <+: reel.cues)
    (hquiet : ∀ cause, some (.failed cause) ∉ st.heardBy t.slot)
    (hspared : along (spares k) (System.new config) moves = true)
    (htimely : ¬late → along (timely k) (System.new config) moves = true) : st.session.Favours late t := by
  induction moves using List.reverseRecOn generalizing st t with
  | nil => simp [run, System.new, Service.new] at hk
  | append_singleton moves m ih =>
    rw [along_concat] at hspared htimely
    cases hk₀ : ((System.new config).run moves).service.tasks[k]? with
    | none =>
      rw [run_append] at hk
      obtain ⟨slot, url, request, rfl⟩ := new_of_step hk₀ hk
      exact .new _ _ _ _ _ _
    | some entry =>
      obtain ⟨n₀, t₀⟩ := entry
      obtain ⟨rfl, hslot, st₀, hst₀, hheard⟩ := place_earlier (List.prefix_append moves [m]) hst hk hk₀
      have hheard := hheard t₀.slot
      rw [← hslot] at hheard
      have h := ih hst₀ hk₀ (hslot ▸ hheard.trans hreel)
        (fun cause hmem => hquiet cause (hheard.subset (hslot ▸ hmem))) hspared.1 fun hlate => (htimely hlate).1
      rw [run_append] at hst hk
      exact favours_step ((Sound.new config).run moves) hst₀ hk₀ h hspared.2 (fun hlate => (htimely hlate).2) hst hk
        hreel hquiet

theorem favours_earlier (hp : before <+: moves) (hst : ((System.new config).run moves).studio n = some st)
    (hk : ((System.new config).run moves).service.tasks[k]? = some (n, t)) (hreel : st.heardBy t.slot <+: reel.cues)
    (hquiet : ∀ cause, some (.failed cause) ∉ st.heardBy t.slot)
    (hspared : along (spares k) (System.new config) moves = true)
    (htimely : ¬late → along (timely k) (System.new config) moves = true) {n₀ : Nat} {t₀ : Task}
    (hk₀ : ((System.new config).run before).service.tasks[k]? = some (n₀, t₀)) :
    ∃ st₀, ((System.new config).run before).studio n₀ = some st₀ ∧ st₀.session.Favours late t₀ := by
  obtain ⟨rfl, hslot, st₀, hst₀, hheard⟩ := place_earlier hp hst hk hk₀
  have hheard := hheard t₀.slot
  rw [← hslot] at hheard
  refine ⟨st₀, hst₀, favours_of_run hst₀ hk₀ (hslot ▸ hheard.trans hreel) ?_ (along_earlier hp hspared) ?_⟩
  · intro cause hmem
    exact hquiet cause (hheard.subset (hslot ▸ hmem))
  · intro hlate
    exact along_earlier hp (htimely hlate)

theorem failed_of_play (σ : System) (k : Nat) {cue : Cue}
    (hfine : ∀ n t', (σ.play k cue).service.tasks[k]? = some (n, t') →
      ∀ cause, t'.stage.outcome? ≠ some (.error cause)) :
    (σ.play k cue).service.counters.failed = σ.service.counters.failed := by
  have hstep := σ.step_play k cue
  generalize σ.play k cue = σ' at hstep hfine ⊢
  cases hstep with
  | idle => rfl
  | @played _ n _ _ t' _ _ _ hk _ ht =>
    refine (Task.transition_of_step ht).failed_of_fine (hfine n t' ?_)
    exact List.getElem?_set_self (List.getElem?_eq_some_iff.1 hk).1

end

/-- **Failures are late.** If a playback of a good source fails though neither the room nor anybody at the map
interferes, its session is being closed, and was marked closed while the playback was about to make a call behind its
look at the token. -/
theorem failures_are_late (config : Config) (moves : List Move) (k n : Nat) {st : Studio} {t : Task}
    (hst : ((System.new config).run moves).studio n = some st)
    (hk : ((System.new config).run moves).service.tasks[k]? = some (n, t)) {reel : Reel}
    (hreel : st.heardBy t.slot <+: reel.cues) (hquiet : ∀ cause, some (.failed cause) ∉ st.heardBy t.slot)
    (hspared : along (spares k) (System.new config) moves = true) :
    (∀ cause, t.ending? = some (.error cause) →
      (st.session.isCancelled t.slot = true ∨ .revoking ∈ st.calls) ∧ (∃ reason, cause = .delivery reason) ∧
      along (timely k) (System.new config) moves = false) ∧
    (along (timely k) (System.new config) moves = true →
      (∀ ending, t.ending? = some ending → ∃ outcome, ending = .ok outcome) ∧
      ∀ (before : List Move) (cue : Cue), before ++ [.play k cue] <+: moves →
        ((System.new config).run (before ++ [.play k cue])).service.counters.failed =
          ((System.new config).run before).service.counters.failed) := by
  have hlate : ∀ cause, t.ending? = some (.error cause) →
      along (timely k) (System.new config) moves = false ∧ st.session.closed = true ∧
        ∃ reason, cause = .delivery reason := by
    intro cause hended
    have h : st.session.Favours (along (timely k) (System.new config) moves = false) t :=
      favours_of_run hst hk hreel hquiet hspared eq_true_of_ne_false
    exact h.fine cause (Task.outcome_of_ending hended)
  refine ⟨?_, ?_⟩
  · intro cause hended
    obtain ⟨htimely, hclosed, hdelivery⟩ := hlate cause hended
    refine ⟨?_, hdelivery, htimely⟩
    have hmarked := (reachable_of_run hst).marked
    obtain ⟨c, hc, hclosing⟩ := hmarked.exists_closing hclosed
    cases c with
    | revoking => exact .inr hc
    | draining | muting | left => exact .inl (Session.isCancelled_of_revoked (hmarked.revoked _ hc rfl) t.slot)
    | _ => cases hclosing
  · intro htimely
    refine ⟨?_, ?_⟩
    · intro ending hended
      cases ending with
      | ok outcome => exact ⟨outcome, rfl⟩
      | error cause => cases (hlate cause hended).1.symm.trans htimely
    · intro before cue hp
      have hplay : (System.new config).run (before ++ [.play k cue]) = ((System.new config).run before).play k cue :=
        run_append _ before [.play k cue]
      rw [hplay]
      refine failed_of_play _ k ?_
      intro n' t' hk' cause hcause
      rw [← hplay] at hk'
      obtain ⟨st', -, h⟩ : ∃ st' : Studio, _ ∧ st'.session.Favours False t' :=
        favours_earlier hp hst hk hreel hquiet hspared (fun _ => htimely) hk'
      exact (h.fine cause hcause).1

/-- A playback is begun, hears two samples and looks for a track, its session is closed while the room publishes the
track, for which the playback may wait, and the room publishes it. -/
def closedInPublishing (waits : Bool) : List Move :=
  let seeking : List Cue :=
    [.go, .answered (.ok ⟨200, "audio/wav"⟩), .event (.spec ⟨16000, 1⟩), .event (.samples [7, 8]), .go, .go]
  let waiting : List Cue := if waits then [.suspended] else []
  let behind : List Cue := [.published (.ok ()), .go, .go, .go, .go, .go]
  .openSession "room" :: Move.started 0 ++ (seeking ++ waiting).map (.play 0) ++
    .close 0 :: Move.hungUp 0 ++ behind.map (.play 0)

theorem exists_of_closedInPublishing (waits : Bool) :
    ∃ st t, ((System.new .terse).run (closedInPublishing waits)).studio 0 = some st ∧
      ((System.new .terse).run (closedInPublishing waits)).service.tasks[0]? = some (0, t) ∧
      st.heardBy t.slot = [some (.spec ⟨16000, 1⟩), some (.samples [7, 8])] ∧
      st.session.isCancelled t.slot = true ∧
      t.ending? = some (if waits then .ok (.cancelled 0) else .error (.delivery .roomClosed)) := by
  have hstudio : (((System.new .terse).run (closedInPublishing waits)).studio 0).map
      (fun st => (st.heardBy 1, st.session.isCancelled 1)) =
      some ([some (.spec ⟨16000, 1⟩), some (.samples [7, 8])], true) := by
    cases waits <;> decide +kernel
  have htask : (((System.new .terse).run (closedInPublishing waits)).service.tasks[0]?.map
      fun entry => (entry.1, entry.2.slot, entry.2.ending?)) =
      some (0, 1, some (if waits then .ok (.cancelled 0) else .error (.delivery .roomClosed))) := by
    cases waits <;> decide +kernel
  obtain ⟨⟨n, t⟩, hk, htask⟩ := Option.map_eq_some_iff.1 htask
  obtain ⟨st, hst, hstudio⟩ := Option.map_eq_some_iff.1 hstudio
  obtain ⟨rfl, htask⟩ := Prod.mk.inj htask
  obtain ⟨hslot, hended⟩ := Prod.mk.inj htask
  obtain ⟨hheard, hcancelled⟩ := Prod.mk.inj hstudio
  exact ⟨st, t, hst, hk, by rw [hslot, hheard], by rw [hslot, hcancelled], hended⟩

theorem failures_are_late_of_waiting :
    ∃ st t, ((System.new .terse).run (closedInPublishing true)).studio 0 = some st ∧
      ((System.new .terse).run (closedInPublishing true)).service.tasks[0]? = some (0, t) ∧
      st.session.isCancelled t.slot = true ∧ t.ending? = some (.ok (.cancelled 0)) ∧
      ∀ (before : List Move) (cue : Cue), before ++ [.play 0 cue] <+: closedInPublishing true →
        ((System.new .terse).run (before ++ [.play 0 cue])).service.counters.failed =
          ((System.new .terse).run before).service.counters.failed := by
  obtain ⟨st, t, hst, hk, hheard, hcancelled, hended⟩ := exists_of_closedInPublishing true
  have hreel : st.heardBy t.slot <+: (Reel.played ⟨16000, 1⟩ [[7, 8]] none).cues := by
    rw [hheard]
    exact List.prefix_append _ [none]
  obtain ⟨-, hfailed⟩ := (failures_are_late .terse (closedInPublishing true) 0 0 hst hk hreel (by simp [hheard])
    (by decide +kernel)).2 (by decide +kernel)
  exact ⟨st, t, hst, hk, hcancelled, hended, hfailed⟩

/-- A playback that does not wait for its track when its session is closed fails, and is counted as failed, though
nothing fails but that its session is closed. -/
theorem failure_of_close_in_publishing :
    ∃ st t, ((System.new .terse).run (closedInPublishing false)).studio 0 = some st ∧
      ((System.new .terse).run (closedInPublishing false)).service.tasks[0]? = some (0, t) ∧
      st.heardBy t.slot <+: (Reel.played ⟨16000, 1⟩ [[7, 8]] none).cues ∧
      along (spares 0) (System.new .terse) (closedInPublishing false) = true ∧
      st.session.isCancelled t.slot = true ∧ t.ending? = some (.error (.delivery .roomClosed)) ∧
      ((System.new .terse).run (closedInPublishing false)).service.counters.failed = 1 := by
  obtain ⟨st, t, hst, hk, hheard, hcancelled, hended⟩ := exists_of_closedInPublishing false
  refine ⟨st, t, hst, hk, ?_, by decide +kernel, hcancelled, hended, by decide +kernel⟩
  rw [hheard]
  exact List.prefix_append _ [none]

end System

end Playout
