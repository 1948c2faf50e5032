import Mathlib
import Playout.Proofs.Session.Lease
import Playout.Proofs.System.Progress

/-!
# Playbacks take turns

What keeps the playbacks of a session from getting into each other's way. Each has its own slot, held until it
is gone (`Placed`). Those that wait for the lease or work with it are those in its queue, and whoever works
holds it (`Queued`). A playback gets the lease only while its token is not cancelled, and then it is the one
begun last; so the lease goes to ever later playbacks, and whoever works is the last that got it (`Turns`).
-/

namespace Playout.Studio

variable {config : Config} {st st' : Studio}

/-! ## One playback among the others -/

section Others

variable {before behind : List Task} {t t' u : Task}

theorem slot_ne_of_others (hn : ((before ++ t :: behind).map (·.slot)).Nodup) (hu : u ∈ before ++ behind) :
    u.slot ≠ t.slot := by
  rw [List.map_append, List.map_cons, List.nodup_middle, List.nodup_cons, ← List.map_append] at hn
  intro heq
  exact hn.1 (heq ▸ List.mem_map_of_mem hu)

theorem slots_replaced (h : t'.slot = t.slot) :
    (before ++ t' :: behind).map (·.slot) = (before ++ t :: behind).map (·.slot) := by
  rw [List.map_append, List.map_append, List.map_cons, List.map_cons, h]

end Others

/-! ## Slots -/

/-- Each playback has its own slot, and holds it until it is gone. -/
structure Placed (st : Studio) : Prop where
  inOrder : st.session.SlotsInOrder
  ids : st.tasks.map (·.slot) = st.session.slots.map (·.id)
  held : ∀ t ∈ st.tasks, st.session.isHeld t.slot = decide (t.phase ≠ .gone)

namespace Placed

theorem new (config : Config) (id : String) : (Studio.new config id).Placed where
  inOrder := .new config id
  ids := rfl
  held := by simp [Studio.new]

theorem nodup (h : st.Placed) : (st.tasks.map (·.slot)).Nodup := by
  rw [h.ids, h.inOrder.ids]
  exact List.nodup_range'

theorem eq_of_slot (h : st.Placed) {t u : Task} (ht : t ∈ st.tasks) (hu : u ∈ st.tasks) (hslot : t.slot = u.slot) :
    t = u :=
  List.inj_on_of_nodup_map h.nodup ht hu hslot

theorem slot_le (h : st.Placed) {t : Task} (ht : t ∈ st.tasks) : t.slot ≤ st.session.slots.length := by
  refine (h.inOrder.le_length ?_).2
  rw [← h.ids]
  exact List.mem_map_of_mem ht

theorem slot_ne_begin (h : st.Placed) {t : Task} (ht : t ∈ st.tasks) : t.slot ≠ st.session.begin.1 := by
  rw [Session.begin_fst]
  exact (Nat.lt_succ_of_le (h.slot_le ht)).ne

theorem slot_of_live (h : st.Placed) {t : Task} (ht : t ∈ st.tasks) (hphase : t.phase ≠ .gone)
    (hlive : st.session.isCancelled t.slot = false) : t.slot = st.session.slots.length := by
  have hheld : st.session.isHeld t.slot = true := by
    rw [h.held t ht]
    exact decide_eq_true hphase
  have hactive : st.session.active = some t.slot := by
    by_contra hne
    rw [h.inOrder.others t.slot hheld hne] at hlive
    cases hlive
  exact (h.inOrder.active t.slot hactive).1

theorem aside (h : st.Placed) (hmarked : st.Marked) (ha : st.Aside st') : st'.Placed where
  inOrder := ha.inOrder hmarked h.inOrder
  ids := by rw [ha.tasks, ha.ids, h.ids]
  held := by
    simp only [ha.tasks, ha.isHeld]
    exact h.held

theorem accept (h : st.Placed) (url : Url) (request : Request) : (st.accept config url request).Placed where
  inOrder := h.inOrder.begin
  ids := by
    simp only [Studio.accept, List.map_append, Session.ids_begin, h.ids]
    rfl
  held t ht := by
    rcases List.mem_append.1 ht with ht | ht
    · have hne : st.session.begin.1 ≠ t.slot := (h.slot_ne_begin ht).symm
      simp only [Studio.accept, Session.isHeld_begin, hne, decide_false, Bool.or_false]
      exact h.held t ht
    · obtain rfl := List.mem_singleton.1 ht
      simp [Studio.accept, Task.new, Task.phase, Task.Stage.phase]

theorem play {before behind : List Task} {t t' : Task} {cue : Cue} {s : Session} {m m' : Counters}
    (h : st.Placed) (htasks : st.tasks = before ++ t :: behind) (ht : t.Transition st.session m cue t' s m')
    (log : List Note) : Placed { st with session := s, tasks := before ++ t' :: behind, log } := by
  have hslot := ht.same.slot
  have hn := h.nodup
  have hheld := h.held
  rw [htasks] at hn hheld
  have htheld := hheld t (mem_replaced.2 (.inl rfl))
  -- the token and the handle are touched when the slot is dropped only
  have hsame : st.session.SameSlots s → (t'.phase = .gone ↔ t.phase = .gone) →
      Placed { st with session := s, tasks := before ++ t' :: behind, log } := by
    intro hs hgone
    refine ⟨hs.inOrder h.inOrder, ?_, ?_⟩
    · rw [slots_replaced hslot, ← htasks, hs.slots, h.ids]
    · intro u hu
      rw [hs.isHeld]
      rcases mem_replaced.1 hu with rfl | hu
      · rw [hslot, htheld]
        simp [hgone]
      · exact hheld u (mem_of_others hu)
  cases ht.turn with
  | goOn hphase _ hs => exact hsame hs (by rw [hphase])
  | quit hphase hphase' _ hs => exact hsame hs (by simp [hphase, hphase'])
  | ask hphase _ hphase' _ hs =>
    refine hsame hs ?_
    rw [hphase, hphase']
    split <;> simp
  | grant hphase _ _ hphase' _ hs => exact hsame hs (by simp [hphase, hphase'])
  | leave hphase hphase' _ hs =>
    refine hsame hs ?_
    rcases hphase with hphase | hphase <;> simp [hphase, hphase']
  | drop _ hphase' hs =>
    subst hs
    refine ⟨h.inOrder.finish _, ?_, ?_⟩
    · rw [slots_replaced hslot, ← htasks, Session.ids_finish, h.ids]
    · intro u hu
      rw [Session.isHeld_finish]
      rcases mem_replaced.1 hu with rfl | hu
      · simp [hphase', hslot]
      · rw [hheld u (mem_of_others hu)]
        simp [slot_ne_of_others hn hu]

theorem progress (h : st.Placed) (hmarked : st.Marked) (hp : Progress config st st') : st'.Placed := by
  cases hp with
  | aside ha => exact h.aside hmarked ha
  | accept url request => exact h.accept url request
  | play htasks ht => exact h.play htasks ht _

end Placed

/-! ## The queue -/

/-- The queue for the lease is made of those that wait or work, and whoever works is its first. -/
structure Queued (st : Studio) : Prop where
  fair : st.session.lease.Fair
  nodup : st.session.lease.queue.Nodup
  known : ∀ i ∈ st.session.lease.queue, i ∈ st.tasks.map (·.slot)
  queue : ∀ t ∈ st.tasks, t.slot ∈ st.session.lease.queue ↔ t.phase = .waiting ∨ t.phase = .working
  holder : ∀ t ∈ st.tasks, t.phase = .working → st.session.lease.holder = some t.slot

namespace Queued

theorem new (config : Config) (id : String) : (Studio.new config id).Queued where
  fair := .new
  nodup := List.nodup_nil
  known := by simp [Studio.new, Session.new, Lease.queue]
  queue := by simp [Studio.new]
  holder := by simp [Studio.new]

theorem eq_of_working (h : st.Queued) (hplaced : st.Placed) {t u : Task} (ht : t ∈ st.tasks) (hu : u ∈ st.tasks)
    (htw : t.phase = .working) (huw : u.phase = .working) : t = u := by
  refine hplaced.eq_of_slot ht hu ?_
  exact Option.some.inj ((h.holder t ht htw).symm.trans (h.holder u hu huw))

theorem aside (h : st.Queued) (ha : st.Aside st') : st'.Queued where
  fair := by rw [ha.lease]; exact h.fair
  nodup := by rw [ha.lease]; exact h.nodup
  known := by rw [ha.lease, ha.tasks]; exact h.known
  queue := by rw [ha.lease, ha.tasks]; exact h.queue
  holder := by rw [ha.lease, ha.tasks]; exact h.holder

theorem accept (h : st.Queued) (hplaced : st.Placed) (url : Url) (request : Request) :
    (st.accept config url request).Queued := by
  have hlease := st.session.sameTracks_begin.lease
  have hnew : st.session.begin.1 ∉ st.session.lease.queue := by
    intro hmem
    obtain ⟨t, ht, hslot⟩ := List.mem_map.1 (h.known _ hmem)
    exact hplaced.slot_ne_begin ht hslot
  refine ⟨?_, ?_, ?_, ?_, ?_⟩ <;> simp only [Studio.accept, hlease]
  · exact h.fair
  · exact h.nodup
  · intro i hi
    rw [List.map_append, List.mem_append]
    exact .inl (h.known i hi)
  · intro t ht
    rcases List.mem_append.1 ht with ht | ht
    · exact h.queue t ht
    · obtain rfl := List.mem_singleton.1 ht
      simpa [Task.new, Task.phase, Task.Stage.phase] using hnew
  · intro t ht
    rcases List.mem_append.1 ht with ht | ht
    · exact h.holder t ht
    · obtain rfl := List.mem_singleton.1 ht
      simp [Task.new, Task.phase, Task.Stage.phase]

theorem play {before behind : List Task} {t t' : Task} {cue : Cue} {s : Session} {m m' : Counters}
    (h : st.Queued) (hplaced : st.Placed) (htasks : st.tasks = before ++ t :: behind)
    (ht : t.Transition st.session m cue t' s m') (log : List Note) :
    Queued { st with session := s, tasks := before ++ t' :: behind, log } := by
  have hslot := ht.same.slot
  have hn := hplaced.nodup
  obtain ⟨hfair, hnodup, hknown, hqueue, hholder⟩ := h
  rw [htasks] at hn hqueue hholder
  rw [htasks, ← slots_replaced hslot] at hknown
  have htqueue := hqueue t (mem_replaced.2 (.inl rfl))
  -- the queue stays as it is
  have hsame : s.lease = st.session.lease →
      (t'.phase = .waiting ∨ t'.phase = .working ↔ t.phase = .waiting ∨ t.phase = .working) →
      (t'.phase = .working → st.session.lease.holder = some t.slot) →
      Queued { st with session := s, tasks := before ++ t' :: behind, log } := by
    intro hlease hphase hworking
    constructor <;> simp only [hlease]
    · exact hfair
    · exact hnodup
    · exact hknown
    · intro u hu
      rcases mem_replaced.1 hu with rfl | hu
      · rw [hslot, htqueue, hphase]
      · exact hqueue u (mem_of_others hu)
    · intro u hu huw
      rcases mem_replaced.1 hu with rfl | hu
      · rw [hslot, hworking huw]
      · exact hholder u (mem_of_others hu) huw
  cases ht.turn with
  | goOn hphase hlease _ =>
    apply hsame hlease (by rw [hphase])
    intro huw
    exact hholder t (mem_replaced.2 (.inl rfl)) (hphase ▸ huw)
  | quit hphase hphase' hlease _ =>
    apply hsame hlease (by simp [hphase, hphase'])
    intro huw
    cases hphase'.symm.trans huw
  | grant hphase _ hholder' hphase' hlease _ =>
    exact hsame hlease (by simp [hphase, hphase']) fun _ => hholder'
  | drop hphase hphase' hs =>
    have hlease : s.lease = st.session.lease := by rw [hs, (st.session.sameTracks_finish _).lease]
    apply hsame hlease (by simp [hphase, hphase'])
    intro huw
    cases hphase'.symm.trans huw
  | ask hphase _ hphase' hlease _ =>
    have hnot : t.slot ∉ st.session.lease.queue := by simp [htqueue, hphase]
    constructor <;> simp only [hlease, Lease.queue_request hfair]
    · exact Lease.fair_request _ _
    · rw [List.nodup_append_comm, List.singleton_append, List.nodup_cons]
      exact ⟨hnot, hnodup⟩
    · intro i hi
      rw [List.mem_append, List.mem_singleton] at hi
      rcases hi with hi | rfl
      · exact hknown i hi
      · rw [slots_replaced hslot]
        simp
    · intro u hu
      rw [List.mem_append, List.mem_singleton]
      rcases mem_replaced.1 hu with rfl | hu
      · rw [hslot, hphase']
        split <;> simp
      · rw [hqueue u (mem_of_others hu)]
        simp [slot_ne_of_others hn hu]
    · intro u hu huw
      rcases mem_replaced.1 hu with rfl | hu
      · rw [hphase'] at huw
        split at huw
        · next hgot => rw [hslot, hgot]
        · cases huw
      · exact Lease.holder_request_of_holder (hholder u (mem_of_others hu) huw) _
  | leave hphase hphase' hlease _ =>
    constructor <;> simp only [hlease, Lease.queue_leave]
    · exact hfair.leave _
    · exact hnodup.erase _
    · intro i hi
      exact hknown i (List.mem_of_mem_erase hi)
    · intro u hu
      rw [hnodup.mem_erase_iff]
      rcases mem_replaced.1 hu with rfl | hu
      · simp [hslot, hphase']
      · rw [hqueue u (mem_of_others hu)]
        simp [slot_ne_of_others hn hu]
    · intro u hu huw
      rcases mem_replaced.1 hu with rfl | hu
      · cases hphase'.symm.trans huw
      · exact Lease.holder_leave_of_ne (hholder u (mem_of_others hu) huw) (slot_ne_of_others hn hu)

theorem progress (h : st.Queued) (hplaced : st.Placed) (hp : Progress config st st') : st'.Queued := by
  cases hp with
  | aside ha => exact h.aside ha
  | accept url request => exact h.accept hplaced url request
  | play htasks ht => exact h.play hplaced htasks ht _

end Queued

/-! ## Turns -/

/-- The playbacks that got the lease, in order. -/
def acquirers (st : Studio) : List Nat := st.log.filterMap Note.acquirer

/-- The writers of the frames that the room accepted from playbacks, in order. -/
def players (st : Studio) : List Nat := st.log.filterMap Note.player

/-- The lease goes to ever later playbacks. Whoever works is the last that got it, and nobody delivers anything
before. -/
structure Turns (st : Studio) : Prop where
  known : ∀ i ∈ st.acquirers, i ∈ st.tasks.map (·.slot)
  early : ∀ t ∈ st.tasks, t.phase = .fresh ∨ t.phase = .waiting → t.slot ∉ st.acquirers
  acquired : ∀ t ∈ st.tasks, t.phase = .working → t.slot ∈ st.acquirers
  last : ∀ t ∈ st.tasks, t.phase = .working → ∀ i ∈ st.acquirers, i ≤ t.slot
  increasing : st.acquirers.Pairwise (· < ·)
  deliverers : ∀ note ∈ st.log, ∀ i, note.deliverer = some i → i ∈ st.acquirers
  players : st.players.Pairwise (· ≤ ·)

theorem mem_players {i : Nat} : i ∈ st.players ↔ ∃ note ∈ st.log, note.player = some i := List.mem_filterMap

theorem Aside.acquirers (ha : st.Aside st') : st'.acquirers = st.acquirers := by
  obtain ⟨notes, hlog, hnotes⟩ := ha.log
  rw [Studio.acquirers, hlog, List.filterMap_append,
    Note.filterMap_of_subject (fun _ => Note.acquirer_of_subject) hnotes, List.append_nil]
  rfl

theorem Aside.players (ha : st.Aside st') : st'.players = st.players := by
  obtain ⟨notes, hlog, hnotes⟩ := ha.log
  rw [Studio.players, hlog, List.filterMap_append,
    Note.filterMap_of_subject (fun _ => Note.player_of_subject) hnotes, List.append_nil]
  rfl

namespace Turns

theorem new (config : Config) (id : String) : (Studio.new config id).Turns := by
  constructor <;> simp [Studio.new, acquirers, Studio.players]

theorem acquirer_of_player (h : st.Turns) {i : Nat} (hi : i ∈ st.players) : i ∈ st.acquirers := by
  obtain ⟨note, hmem, hplayer⟩ := mem_players.1 hi
  exact h.deliverers note hmem i (Note.deliverer_of_player hplayer)

theorem aside (h : st.Turns) (ha : st.Aside st') : st'.Turns := by
  constructor <;> simp only [ha.acquirers, ha.players, ha.tasks]
  · exact h.known
  · exact h.early
  · exact h.acquired
  · exact h.last
  · exact h.increasing
  · obtain ⟨notes, hlog, hnotes⟩ := ha.log
    intro note hmem i hi
    rw [hlog] at hmem
    rcases List.mem_append.1 hmem with hmem | hmem
    · exact h.deliverers note hmem i hi
    · cases (Note.deliverer_of_subject (hnotes note hmem)).symm.trans hi
  · exact h.players

theorem accept (h : st.Turns) (hplaced : st.Placed) (url : Url) (request : Request) :
    (st.accept config url request).Turns := by
  have hnew : st.session.begin.1 ∉ st.acquirers := by
    intro hmem
    obtain ⟨t, ht, hslot⟩ := List.mem_map.1 (h.known _ hmem)
    exact hplaced.slot_ne_begin ht hslot
  refine ⟨?_, ?_, ?_, ?_, h.increasing, h.deliverers, h.players⟩
  · intro i hi
    rw [Studio.accept, List.map_append, List.mem_append]
    exact .inl (h.known i hi)
  · intro t ht hphase
    rcases List.mem_append.1 ht with ht | ht
    · exact h.early t ht hphase
    · obtain rfl := List.mem_singleton.1 ht
      exact hnew
  · intro t ht hphase
    rcases List.mem_append.1 ht with ht | ht
    · exact h.acquired t ht hphase
    · obtain rfl := List.mem_singleton.1 ht
      cases hphase
  · intro t ht hphase
    rcases List.mem_append.1 ht with ht | ht
    · exact h.last t ht hphase
    · obtain rfl := List.mem_singleton.1 ht
      cases hphase

/-- Whoever gets the lease comes behind all that had got it. -/
theorem lt_of_live (h : st.Turns) (hplaced : st.Placed) {t : Task} (ht : t ∈ st.tasks)
    (hearly : t.phase = .fresh ∨ t.phase = .waiting) (hlive : st.session.isCancelled t.slot = false) :
    ∀ i ∈ st.acquirers, i < t.slot := by
  have hphase : t.phase ≠ .gone := by rcases hearly with hphase | hphase <;> simp [hphase]
  have hlast := hplaced.slot_of_live ht hphase hlive
  intro i hi
  obtain ⟨u, hu, rfl⟩ := List.mem_map.1 (h.known i hi)
  have hle : u.slot ≤ t.slot := hlast ▸ hplaced.slot_le hu
  have hne : u.slot ≠ t.slot := by
    intro heq
    exact h.early t ht hearly (heq ▸ hi)
  omega

section Play

variable {before behind : List Task} {t t' : Task} {cue : Cue} {s : Session} {m m' : Counters}

theorem acquirers_play (ht : t.Transition st.session m cue t' s m') :
    (st.log ++ t.notes st.session cue t').filterMap Note.acquirer =
      st.acquirers ++ if (t.phase = .fresh ∨ t.phase = .waiting) ∧ t'.phase = .working then [t.slot] else [] := by
  rw [List.filterMap_append, ht.acquirers]
  rfl

theorem deliverer_play {note : Note} {i : Nat} (hnote : note ∈ t.notes st.session cue t')
    (hi : note.deliverer = some i) : i = t.slot ∧ t.phase = .working := by
  have hsubject := (Note.subject_of_deliverer hi).symm.trans (Task.subject_of_mem_notes hnote)
  exact ⟨Option.some.inj hsubject, Task.working_of_deliverer hnote hi⟩

theorem increasing_play (h : st.Turns) (hplaced : st.Placed) (hmem : t ∈ st.tasks)
    (ht : t.Transition st.session m cue t' s m') :
    ((st.log ++ t.notes st.session cue t').filterMap Note.acquirer).Pairwise (· < ·) := by
  rw [acquirers_play ht]
  split
  · next hgot =>
    have hlt := h.lt_of_live hplaced hmem hgot.1 (ht.turn.live hgot.1 hgot.2)
    rw [List.pairwise_append]
    refine ⟨h.increasing, List.pairwise_singleton _ _, ?_⟩
    intro i hi j hj
    obtain rfl := List.mem_singleton.1 hj
    exact hlt i hi
  · rw [List.append_nil]
    exact h.increasing

theorem players_play (h : st.Turns) (hmem : t ∈ st.tasks) :
    ((st.log ++ t.notes st.session cue t').filterMap Note.player).Pairwise (· ≤ ·) := by
  have hnew : ∀ i ∈ (t.notes st.session cue t').filterMap Note.player, i = t.slot ∧ t.phase = .working := by
    intro i hi
    obtain ⟨note, hnote, hplayer⟩ := List.mem_filterMap.1 hi
    exact deliverer_play hnote (Note.deliverer_of_player hplayer)
  rw [List.filterMap_append, List.pairwise_append]
  refine ⟨h.players, ?_, ?_⟩
  · apply List.pairwise_of_forall_mem_list
    intro i hi j hj
    rw [(hnew i hi).1, (hnew j hj).1]
  · intro i hi j hj
    obtain ⟨rfl, hworking⟩ := hnew j hj
    exact h.last t hmem hworking i (h.acquirer_of_player hi)

theorem play (h : st.Turns) (hplaced : st.Placed) (hqueued : st.Queued) (htasks : st.tasks = before ++ t :: behind)
    (ht : t.Transition st.session m cue t' s m') :
    Turns
      { st with
        session := s
        tasks := before ++ t' :: behind
        log := st.log ++ t.notes st.session cue t' } := by
  have hslot := ht.same.slot
  have hturn := ht.turn
  have hmem : t ∈ st.tasks := htasks ▸ mem_replaced.2 (.inl rfl)
  have hothers : ∀ u ∈ before ++ behind, u ∈ st.tasks ∧ u.slot ≠ t.slot := by
    intro u hu
    exact ⟨htasks ▸ mem_of_others hu, slot_ne_of_others (htasks ▸ hplaced.nodup) hu⟩
  have hworker : ∀ u ∈ before ++ t' :: behind, u.phase = .working → t'.phase = .working → u = t' := by
    intro u hu huw hworking
    have hplaced' := hplaced.play htasks ht []
    exact (hqueued.play hplaced htasks ht []).eq_of_working hplaced' hu (mem_replaced.2 (.inl rfl)) huw hworking
  refine ⟨?_, ?_, ?_, ?_, h.increasing_play hplaced hmem ht, ?_, h.players_play hmem⟩ <;>
    simp only [acquirers, acquirers_play ht]
  · intro i hi
    rw [slots_replaced hslot, ← htasks]
    rcases List.mem_append.1 hi with hi | hi
    · exact h.known i hi
    · split at hi
      · obtain rfl := List.mem_singleton.1 hi
        exact List.mem_map_of_mem hmem
      · cases hi
  · intro u hu hphase
    rcases mem_replaced.1 hu with rfl | hu
    · have hnot : u.phase ≠ .working := by rcases hphase with hphase | hphase <;> simp [hphase]
      rw [if_neg fun hgot => hnot hgot.2, hslot, List.append_nil]
      exact h.early t hmem (hturn.early hphase)
    · obtain ⟨hu, hne⟩ := hothers u hu
      intro hi
      rcases List.mem_append.1 hi with hi | hi
      · exact h.early u hu hphase hi
      · split at hi
        · exact hne (List.mem_singleton.1 hi)
        · cases hi
  · intro u hu hphase
    rw [List.mem_append]
    rcases mem_replaced.1 hu with rfl | hu
    · rcases hturn.working hphase with hearly | hworking
      · rw [if_pos ⟨hearly, hphase⟩, hslot]
        exact .inr (List.mem_singleton.2 rfl)
      · rw [hslot]
        exact .inl (h.acquired t hmem hworking)
    · exact .inl (h.acquired u (hothers u hu).1 hphase)
  · intro u hu hphase i hall
    rcases List.mem_append.1 hall with hi | hi
    · rcases mem_replaced.1 hu with rfl | hu
      · rw [hslot]
        rcases hturn.working hphase with hearly | hworking
        · exact (h.lt_of_live hplaced hmem hearly (hturn.live hearly hphase) i hi).le
        · exact h.last t hmem hworking i hi
      · exact h.last u (hothers u hu).1 hphase i hi
    · split at hi
      · next hgot =>
        obtain rfl := List.mem_singleton.1 hi
        rw [hworker u hu hphase hgot.2, hslot]
      · cases hi
  · intro note hnote i hi
    rw [List.mem_append]
    rcases List.mem_append.1 hnote with hnote | hnote
    · exact .inl (h.deliverers note hnote i hi)
    · obtain ⟨rfl, hworking⟩ := deliverer_play hnote hi
      exact .inl (h.acquired t hmem hworking)

end Play

theorem progress (h : st.Turns) (hplaced : st.Placed) (hqueued : st.Queued) (hp : Progress config st st') :
    st'.Turns := by
  cases hp with
  | aside ha => exact h.aside ha
  | accept url request => exact h.accept hplaced url request
  | play htasks ht => exact h.play hplaced hqueued htasks ht

end Turns

end Playout.Studio
