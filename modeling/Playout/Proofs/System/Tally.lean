import Mathlib
import Playout.Proofs.System.Exclusion

/-!
# What the counters of playbacks tell

A playback is counted as started when it is accepted, its fetch is counted when it leaves the stage in which it waits
for the origin, and its end and duration are counted in the step that resolves its ticket. So each counter is at any
time the number of playbacks that are past its step (`System.Tallied`). The playbacks that are past fetching are those
that got the lease, each once, since the lease goes to ever later ones (`Studio.Turns`).
-/

namespace Playout

namespace Task

variable {s s' : Session} {m m' : Counters} {t t' : Task} {cue : Cue}

/-! ## Fetching -/

/-- In this stage a playback waits for the origin. -/
def Stage.isFetching : Stage → Bool
  | .fetching => true
  | _ => false

theorem isFetching_receive (t : Task) (result : Except String Head) : (t.receive result).stage.isFetching = false := by
  unfold receive
  split
  · rfl
  · split
    · rfl
    · split <;> rfl

theorem isFetching_hear (frameSamples : Nat) (t : Task) (event : Event) :
    (t.hear frameSamples event).stage.isFetching = false := by
  unfold hear
  split
  · rfl
  · split <;> rfl
  · rfl

theorem isFetching_flush (t : Task) : t.flush.stage.isFetching = false := by
  unfold flush
  split <;> rfl

theorem isFetching_withTrack (t : Task) (h : Handle) : (t.withTrack h).stage.isFetching = false := by
  unfold withTrack
  dsimp only
  split <;> rfl

theorem Transition.isFetching_iff (h : t.Transition s m cue t' s' m') :
    t'.stage.isFetching = true ↔ (t.phase = .fresh ∨ t.phase = .waiting) ∧ t'.phase = .working := by
  have hlate : t.phase = .working ∨ t.phase = .leaving ∨ t.phase = .gone → t'.stage.isFetching = false →
      (t'.stage.isFetching = true ↔ (t.phase = .fresh ∨ t.phase = .waiting) ∧ t'.phase = .working) := by
    intro hphase hfetching
    rcases hphase with hphase | hphase | hphase <;> simp [hphase, hfetching]
  cases h with
  | quit | quitWaiting => simp [phase, Stage.phase, enter, Stage.isFetching]
  | ask hstage =>
    rw [phase_of_stage hstage]
    split <;> simp [phase, Stage.phase, enter, Stage.isFetching]
  | granted hstage =>
    rw [phase_of_stage hstage]
    simp [phase, Stage.phase, enter, Stage.isFetching]
  | answered hstage => exact hlate (.inl (phase_of_stage hstage)) (t.isFetching_receive _)
  | heard hstage => exact hlate (.inl (phase_of_stage hstage)) (t.isFetching_hear _ _)
  | exhausted hstage => exact hlate (.inl (phase_of_stage hstage)) t.isFetching_flush
  | delivered hstage | booked hstage =>
    refine hlate (.inl (phase_of_stage hstage)) ?_
    split <;> rfl
  | reuse hstage | obtained hstage => exact hlate (.inl (phase_of_stage hstage)) (t.isFetching_withTrack _)
  | retired hstage => exact hlate (.inr (.inl (phase_of_stage hstage))) rfl
  | reported hstage => exact hlate (.inr (.inr (phase_of_stage hstage))) rfl
  | _ hstage => exact hlate (.inl (phase_of_stage hstage)) rfl

theorem Transition.length_acquirers (h : t.Transition s m cue t' s' m') :
    ((t.notes s cue t').filterMap Note.acquirer).length = t'.stage.isFetching.toNat := by
  rw [h.acquirers]
  simp only [← h.isFetching_iff]
  cases t'.stage.isFetching <;> rfl

theorem Transition.fetches (h : t.Transition s m cue t' s' m') :
    m'.fetches = m.fetches + t.stage.isFetching.toNat := by
  cases h with
  | @reported ending hstage =>
    rw [hstage]
    unfold Counters.countEnding
    dsimp only
    split <;> rfl
  | _ hstage =>
    rw [hstage]
    rfl

end Task

/-! ## Endings -/

/-- The kinds of ends that playbacks come to. -/
inductive Verdict where
  | completed
  | cancelled
  | failed
deriving DecidableEq, Repr

def Verdict.of : Ending → Verdict
  | .ok (.completed _) => .completed
  | .ok (.cancelled _) => .cancelled
  | .error _ => .failed

def Metrics.ends {τ : Type} (m : Metrics τ) : Verdict → Nat
  | .completed => m.completed
  | .cancelled => m.cancelled
  | .failed => m.failed

theorem Metrics.ends_countEnding (m : Counters) (ending : Ending) (v : Verdict) :
    (m.countEnding ending).ends v = m.ends v + if Verdict.of ending = v then 1 else 0 := by
  unfold Counters.countEnding Verdict.of
  dsimp only
  split <;> cases v <;> rfl

theorem Metrics.countEnding_rest (m : Counters) (ending : Ending) :
    (m.countEnding ending).playbacks = m.playbacks + 1 ∧ (m.countEnding ending).fetches = m.fetches := by
  unfold Counters.countEnding
  dsimp only
  split <;> exact ⟨rfl, rfl⟩

namespace Task

variable {s s' : Session} {m m' : Counters} {t t' : Task} {cue : Cue}

theorem ending?_of_plain (h : t.stage.plain = true) : t.ending? = none := by
  unfold ending?
  cases hstage : t.stage <;> first | rfl | simp [hstage, Stage.plain] at h

theorem Transition.ending (h : t.Transition s m cue t' s' m') :
    t.ending? = none ∧
      ((∃ ending, t'.ending? = some ending ∧ m' = m.countEnding ending) ∨
        t'.ending? = none ∧ m'.playbacks = m.playbacks ∧ m'.ends = m.ends) := by
  have hends : ∀ {frames samples fetches : Nat},
      ({ m with frames, samples, fetches } : Counters).playbacks = m.playbacks ∧
        ({ m with frames, samples, fetches } : Counters).ends = m.ends :=
    ⟨rfl, rfl⟩
  cases h with
  | @reported ending hstage => exact ⟨by simp [ending?, hstage], .inl ⟨ending, rfl, rfl⟩⟩
  | answered hstage =>
    exact ⟨by simp [ending?, hstage], .inr ⟨ending?_of_plain (t.onward_receive _).plain, hends⟩⟩
  | heard hstage => exact ⟨by simp [ending?, hstage], .inr ⟨ending?_of_plain (t.onward_hear _ _).plain, hends⟩⟩
  | exhausted hstage => exact ⟨by simp [ending?, hstage], .inr ⟨ending?_of_plain t.onward_flush.plain, hends⟩⟩
  | reuse hstage | obtained hstage =>
    exact ⟨by simp [ending?, hstage], .inr ⟨ending?_of_plain (t.plain_withTrack _), hends⟩⟩
  | ask hstage | delivered hstage | booked hstage =>
    refine ⟨by simp [ending?, hstage], .inr ⟨?_, hends⟩⟩
    split <;> rfl
  | _ hstage => exact ⟨by simp [ending?, hstage], .inr ⟨rfl, hends⟩⟩

end Task

/-- Nothing that is counted of playbacks is different. -/
structure Metrics.SamePlaybacks (m m' : Counters) : Prop where
  started : m'.started = m.started
  ends : m'.ends = m.ends
  playbacks : m'.playbacks = m.playbacks
  fetches : m'.fetches = m.fetches

theorem Metrics.samePlaybacks_countOffer (m : Counters) (offered : Offered) :
    m.SamePlaybacks (m.countOffer offered) := by
  cases offered <;> exact ⟨rfl, rfl, rfl, rfl⟩

namespace System

variable {σ : System} {config : Config} {moves : List Move} {n k : Nat} {t : Task}

/-! ## The books -/

def endings (σ : System) : List Ending := σ.service.tasks.filterMap (·.2.ending?)

def running (σ : System) : List Task := (σ.service.tasks.map Prod.snd).filter (·.ending?.isNone)

/-- Who got the lease, by session and slot, in order. -/
def acquisitions (σ : System) : List (Nat × Nat) :=
  σ.log.filterMap fun entry => entry.2.acquirer.map (entry.1, ·)

theorem filterMap_acquirer (log : List (Nat × Note)) (n : Nat) (notes : List Note) :
    (log ++ notes.map (n, ·)).filterMap (fun entry => entry.2.acquirer.map (entry.1, ·)) =
      log.filterMap (fun entry => entry.2.acquirer.map (entry.1, ·)) ++
        (notes.filterMap Note.acquirer).map (n, ·) := by
  rw [List.filterMap_append, List.filterMap_map, List.map_filterMap]
  rfl

/-- What is counted of playbacks is what there is: those accepted, those that have ended, by kinds, and those that got
the lease and do not wait for the origin any more. -/
structure Tallied (σ : System) : Prop where
  started : σ.service.counters.started = σ.service.tasks.length
  ends : ∀ v, σ.service.counters.ends v = (σ.endings.map Verdict.of).count v
  playbacks : σ.service.counters.playbacks = σ.endings.length
  fetches : σ.service.counters.fetches + (σ.service.tasks.map (·.2.stage.isFetching.toNat)).sum = σ.acquisitions.length

namespace Tallied

theorem new (config : Config) : (System.new config).Tallied :=
  ⟨rfl, fun v => by cases v <;> rfl, rfl, rfl⟩

theorem of_same {σ' : System} (h : σ.Tallied) (htasks : σ'.service.tasks = σ.service.tasks)
    (hlog : σ'.acquisitions = σ.acquisitions) (hm : σ.service.counters.SamePlaybacks σ'.service.counters) :
    σ'.Tallied := by
  have hendings : σ'.endings = σ.endings := by
    rw [endings, htasks]
    rfl
  constructor
  · rw [hm.started, htasks]
    exact h.started
  · rw [hm.ends, hendings]
    exact h.ends
  · rw [hm.playbacks, hendings]
    exact h.playbacks
  · rw [hm.fetches, htasks, hlog]
    exact h.fetches

theorem played {σ' : System} (h : σ.Tallied) {s s' : Session} {t' : Task} {cue : Cue} {m' : Counters}
    (hk : σ.service.tasks[k]? = some (n, t)) (ht : t.step s σ.service.counters cue = some (t', s', m'))
    (htasks' : σ'.service.tasks = σ.service.tasks.set k (n, t')) (hm' : σ'.service.counters = m')
    (hlog' : σ'.log = σ.log ++ (t.notes s cue t').map (n, ·)) : σ'.Tallied := by
  have ht := Task.transition_of_step ht
  obtain ⟨before, behind, htasks, hset⟩ := exists_parts hk
  obtain ⟨hopen, hending⟩ := ht.ending
  have hold : σ.endings = before.filterMap (·.2.ending?) ++ behind.filterMap (·.2.ending?) := by
    rw [endings, htasks, List.filterMap_append, List.filterMap_cons_none (a := (n, t)) hopen]
  have hnew : (σ.service.tasks.set k (n, t')).filterMap (·.2.ending?) =
      before.filterMap (·.2.ending?) ++ (t'.ending?.toList ++ behind.filterMap (·.2.ending?)) := by
    rw [hset, List.filterMap_append, List.filterMap_cons]
    cases t'.ending? <;> rfl
  constructor
  · rw [hm', htasks', List.length_set, ← h.started]
    exact ht.counters.1
  · intro v
    rw [hm', endings, htasks', hnew]
    have hends := h.ends v
    rw [hold] at hends
    rcases hending with ⟨ending, hended, rfl⟩ | ⟨hnone, -, hsame⟩
    · rw [Metrics.ends_countEnding, hends, hended]
      simp [List.count_append, List.count_cons]
      omega
    · rw [hsame, hends, hnone]
      rfl
  · rw [hm', endings, htasks', hnew]
    have hplaybacks := h.playbacks
    rw [hold] at hplaybacks
    rcases hending with ⟨ending, hended, rfl⟩ | ⟨hnone, hsame, -⟩
    · rw [(Metrics.countEnding_rest _ _).1, hplaybacks, hended]
      simp
      omega
    · rw [hsame, hplaybacks, hnone]
      rfl
  · have hsum := sum_set (fun entry : Nat × Task => entry.2.stage.isFetching.toNat) hk (n, t')
    have hfetches := h.fetches
    dsimp only at hsum
    rw [hm', htasks', acquisitions, hlog', filterMap_acquirer, List.length_append, List.length_map,
      ht.length_acquirers, ht.fetches]
    rw [acquisitions] at hfetches
    omega

theorem accept {σ' : System} (h : σ.Tallied) {slot : Nat} {url : Url} {request : Request}
    (htasks : σ'.service.tasks = σ.service.tasks ++ [(n, Task.new config slot url request)])
    (hlog : σ'.log = σ.log)
    (hm : σ'.service.counters = { σ.service.counters with started := σ.service.counters.started + 1 }) :
    σ'.Tallied := by
  have hendings : σ'.endings = σ.endings := by
    rw [endings, endings, htasks, List.filterMap_append]
    exact List.append_nil _
  constructor
  · rw [hm, htasks, List.length_append, ← h.started]
    rfl
  · rw [hm, hendings]
    exact h.ends
  · rw [hm, hendings]
    exact h.playbacks
  · rw [hm, htasks, acquisitions, hlog, List.map_append, List.sum_append]
    exact h.fetches

theorem step {σ' : System} {m : Move} (h : σ.Tallied) (hstep : σ.Step m σ') : σ'.Tallied := by
  cases hstep with
  | accepted => exact h.accept rfl rfl rfl
  | played hk _ ht => exact h.played hk ht rfl rfl rfl
  | @attended _ n _ e e' _ _ _ _ _ he =>
    obtain ⟨frames, samples, rfl⟩ := Errand.step_counters he
    refine h.of_same rfl ?_ ⟨rfl, rfl, rfl, rfl⟩
    have hnotes : (e.notes e').filterMap Note.acquirer = [] :=
      Note.filterMap_of_subject (fun _ => Note.acquirer_of_subject) fun _ => Errand.subject_of_mem_notes
    rw [acquisitions, filterMap_acquirer, hnotes]
    exact List.append_nil _
  | offered => exact h.of_same rfl rfl (Metrics.samePlaybacks_countOffer _ _)
  | shutting | closing | closingTrack =>
    refine h.of_same ?_ ?_ ?_ <;> simp only [acquisitions, service_dial, log_dial]
    exact ⟨rfl, rfl, rfl, rfl⟩
  | _ => exact h.of_same rfl rfl ⟨rfl, rfl, rfl, rfl⟩

theorem run (h : σ.Tallied) (moves : List Move) : (σ.run moves).Tallied := by
  induction moves generalizing σ with
  | nil => exact h
  | cons m moves ih => exact ih (h.step (σ.step_spec m))

end Tallied

/-! ## Ends are for good -/

theorem place_of_ended {ending : Ending} (hk : σ.service.tasks[k]? = some (n, t)) (hended : t.ending? = some ending)
    (moves : List Move) : (σ.run moves).service.tasks[k]? = some (n, t) := by
  induction moves generalizing σ with
  | nil => exact hk
  | cons m moves ih =>
    apply ih
    have hstep := σ.floor_step m
    generalize hf : σ.floor = f, hf' : (σ.step m).floor = f' at hstep
    have hk : f.tasks[k]? = some (n, t) := by rw [← hf]; exact hk
    have hlt := (List.getElem?_eq_some_iff.1 hk).1
    suffices hk' : f'.tasks[k]? = some (n, t) by rw [← hf'] at hk'; exact hk'
    cases hstep with
    | rest | opened | changed | called | attended | dialed | proceeded => exact hk
    | accepted => rw [List.getElem?_append_left hlt, hk]
    | @played _ j _ _ _ _ _ _ _ hj _ ht =>
      have hne : j ≠ k := by
        rintro rfl
        obtain ⟨-, rfl⟩ := Prod.mk.inj (Option.some.inj (hj.symm.trans hk))
        cases (Task.transition_of_step ht).ending.1.symm.trans hended
      rw [List.getElem?_set_ne hne, hk]

/-! ## Sums -/

theorem length_verdicts (l : List Verdict) : l.length = l.count .completed + l.count .cancelled + l.count .failed := by
  induction l with
  | nil => rfl
  | cons v l ih =>
    rw [List.length_cons, ih]
    cases v <;> simp <;> omega

theorem length_tasks (σ : System) : σ.service.tasks.length = σ.endings.length + σ.running.length := by
  unfold endings running
  induction σ.service.tasks with
  | nil => rfl
  | cons entry tasks ih =>
    rw [List.length_cons, ih]
    cases hended : entry.2.ending? <;> simp [hended] <;> omega

theorem fetching_of_rest (h : σ.running = []) : (σ.service.tasks.map (·.2.stage.isFetching.toNat)).sum = 0 := by
  rw [List.sum_eq_zero_iff, List.forall_mem_map]
  intro entry hmem
  have hended : entry.2.ending?.isNone ≠ true := List.filter_eq_nil_iff.1 h _ (List.mem_map_of_mem hmem)
  unfold Task.ending? at hended
  split at hended
  · next hstage => rw [hstage]; rfl
  · exact absurd rfl hended

/-! ## Who got the lease -/

theorem nodup_of_parts {α : Type} {l : List (Nat × α)} (h : ∀ n, (partOf n l).Nodup) : l.Nodup := by
  induction l with
  | nil => exact List.nodup_nil
  | cons entry l ih =>
    obtain ⟨m, a⟩ := entry
    have hself := h m
    rw [partOf_cons_self, List.nodup_cons, mem_partOf] at hself
    refine List.nodup_cons.2 ⟨hself.1, ih ?_⟩
    intro n
    by_cases hn : m = n
    · exact hn ▸ hself.2
    · have hother := h n
      rwa [partOf_cons_of_ne hn] at hother

theorem partOf_acquisitions (σ : System) (n : Nat) :
    partOf n σ.acquisitions = (partOf n σ.log).filterMap Note.acquirer := by
  unfold acquisitions
  induction σ.log with
  | nil => rfl
  | cons entry log ih =>
    obtain ⟨m, note⟩ := entry
    by_cases hm : m = n
    · subst hm
      cases hnote : note.acquirer <;> simp [hnote, partOf_cons_self, ih]
    · cases hnote : note.acquirer <;> simp [hnote, partOf_cons_of_ne hm, ih]

theorem partOf_slots (tasks : List (Nat × Task)) (n : Nat) :
    partOf n (tasks.map fun entry => (entry.1, entry.2.slot)) = (partOf n tasks).map (·.slot) := by
  simp [partOf, List.filterMap_map, List.map_filterMap, apply_ite]

theorem Sound.parts (h : σ.Sound config) (n : Nat) :
    (∃ st, σ.studio n = some st) ∨ partOf n σ.service.tasks = [] ∧ partOf n σ.log = [] := by
  cases hst : σ.studio n with
  | some st => exact .inl ⟨st, rfl⟩
  | none =>
    right
    have hn : σ.service.sessions.length ≤ n := by simpa [studio, floor, Floor.studio] using hst
    constructor
    · apply partOf_eq_nil
      rintro entry hmem rfl
      exact absurd (h.numbered.tasks entry hmem) hn.not_gt
    · apply partOf_eq_nil
      rintro entry hmem rfl
      exact absurd (h.numbered.log entry hmem) hn.not_gt

theorem length_acquisitions (h : σ.Sound config) :
    σ.acquisitions.length = σ.service.tasks.countP fun entry => (entry.1, entry.2.slot) ∈ σ.acquisitions := by
  have hparts : ∀ n, (partOf n σ.acquisitions).Nodup ∧
      (partOf n (σ.service.tasks.map fun entry => (entry.1, entry.2.slot))).Nodup ∧
      ∀ i ∈ partOf n σ.acquisitions, i ∈ partOf n (σ.service.tasks.map fun entry => (entry.1, entry.2.slot)) := by
    intro n
    rw [partOf_acquisitions, partOf_slots]
    obtain ⟨st, hst⟩ | ⟨htasks, hlog⟩ := h.parts n
    · have hin := (h.reachable n st hst).inOrder
      obtain ⟨-, htasks, -, -, hlog⟩ := Floor.studio_eq_some.1 hst
      rw [show partOf n σ.service.tasks = st.tasks from htasks, show partOf n σ.log = st.log from hlog]
      exact ⟨hin.turns.increasing.imp ne_of_lt, hin.placed.nodup, hin.turns.known⟩
    · simp [htasks, hlog]
  have hacquired := nodup_of_parts fun n => (hparts n).1
  have hslots := nodup_of_parts fun n => (hparts n).2.1
  have hp : σ.acquisitions.Perm
      ((σ.service.tasks.map fun entry => (entry.1, entry.2.slot)).filter (· ∈ σ.acquisitions)) := by
    rw [List.perm_ext_iff_of_nodup hacquired (hslots.filter _)]
    rintro ⟨n, i⟩
    rw [List.mem_filter, decide_eq_true_eq]
    refine ⟨fun hmem => ⟨?_, hmem⟩, And.right⟩
    exact mem_partOf.1 ((hparts n).2.2 i (mem_partOf.2 hmem))
  rw [hp.length_eq, ← List.countP_eq_length_filter, List.countP_map]
  rfl

/-! ## The whole account -/

theorem rejected_request (σ : System) {id : String} {request : Request}
    (h : (∃ e, σ.service.find id = .error e) ∨ ∃ e, request.validate = .error e) :
    σ.step (.request id request) = σ ∧ (σ.service.start id request).2 = σ.service := by
  rcases h with ⟨e, he⟩ | ⟨e, he⟩
  · simp [step, Service.start, he]
  · cases hfind : σ.service.find id <;> simp [step, Service.start, hfind, he]

/-- **Playbacks are counted once.** Those started are those accepted: those counted as completed, cancelled and failed,
and those that have not ended. When all have ended, there is a duration for each, and a fetch for each that got the
lease. Requests that are rejected are not counted. -/
theorem playbacks_are_counted (config : Config) (moves : List Move) :
    let σ := (System.new config).run moves
    let m := σ.service.counters
    m.started = m.completed + m.cancelled + m.failed + σ.running.length ∧
    m.started = σ.service.tasks.length ∧
    m.completed = (σ.endings.map Verdict.of).count .completed ∧
    m.cancelled = (σ.endings.map Verdict.of).count .cancelled ∧
    m.failed = (σ.endings.map Verdict.of).count .failed ∧
    (∀ (k n : Nat) (t : Task) (ending : Ending), σ.service.tasks[k]? = some (n, t) → t.ending? = some ending →
      ∀ more, (σ.run more).service.tasks[k]? = some (n, t)) ∧
    (σ.running = [] →
      m.playbacks = m.started ∧
      m.fetches = σ.service.tasks.countP fun entry => (entry.1, entry.2.slot) ∈ σ.acquisitions) ∧
    ∀ id request, ((∃ e, σ.service.find id = .error e) ∨ ∃ e, request.validate = .error e) →
      σ.step (.request id request) = σ ∧ (σ.service.start id request).2 = σ.service := by
  intro σ m
  have h : σ.Tallied := (Tallied.new config).run moves
  have htasks := σ.length_tasks
  have hverdicts := length_verdicts (σ.endings.map Verdict.of)
  have hcompleted := h.ends .completed
  have hcancelled := h.ends .cancelled
  have hfailed := h.ends .failed
  rw [List.length_map] at hverdicts
  refine ⟨?_, h.started, hcompleted, hcancelled, hfailed, ?_, ?_, fun id request => σ.rejected_request⟩
  · rw [h.started, htasks, hverdicts, ← hcompleted, ← hcancelled, ← hfailed]
    rfl
  · intro k n t ending hk hended more
    exact place_of_ended hk hended more
  · intro hrest
    have hfetches := h.fetches
    rw [fetching_of_rest hrest, Nat.add_zero, length_acquisitions ((Sound.new config).run moves)] at hfetches
    refine ⟨?_, hfetches⟩
    rw [h.started, h.playbacks, htasks, hrest]
    rfl

/-- One playback is completed, one is cancelled before it asks for the lease, and one fails while it waits for the
origin. -/
theorem playbacks_are_counted_of_three :
    let moves := Move.once ++ Move.started 1 ++ [Move.cancel 1, .play 1 .go, .play 1 .go, .play 1 .go] ++
      Move.started 2 ++ [Move.play 2 .go, .play 2 (.answered (.error "refused"))] ++ List.replicate 4 (Move.play 2 .go)
    let m : Counters := ((System.new .terse).run moves).service.counters
    m.started = 3 ∧ m.completed = 1 ∧ m.cancelled = 1 ∧ m.failed = 1 ∧ m.playbacks = m.started ∧ m.fetches = 2 := by
  intro moves m
  have hrunning : ((System.new .terse).run moves).running.length = 0 := by decide +kernel
  have haccepted : ((System.new .terse).run moves).service.tasks.length = 3 := by decide +kernel
  have hverdicts : ((System.new .terse).run moves).endings.map Verdict.of = [.completed, .cancelled, .failed] := by
    decide +kernel
  have hacquired : (((System.new .terse).run moves).service.tasks.countP fun entry =>
      (entry.1, entry.2.slot) ∈ ((System.new .terse).run moves).acquisitions) = 2 := by
    decide +kernel
  obtain ⟨-, hstarted, hcompleted, hcancelled, hfailed, -, hrest, -⟩ := playbacks_are_counted .terse moves
  obtain ⟨hplaybacks, hfetches⟩ := hrest (List.eq_nil_of_length_eq_zero hrunning)
  rw [hverdicts] at hcompleted hcancelled hfailed
  exact ⟨hstarted.trans haccepted, hcompleted, hcancelled, hfailed, hplaybacks, hfetches.trans hacquired⟩

end System

end Playout
