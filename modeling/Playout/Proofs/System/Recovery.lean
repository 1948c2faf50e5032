import Mathlib
import Playout.Proofs.System.Exclusion

/-!
# What a playback leaves behind

However a playback ended, it has left nothing that is in the way of the next one (`System.session_recovers`):
its handle and the lease are given up and its track is off the map. So when all playbacks of an open session have
ended, the next one gets the lease as soon as it asks. A playback closes the track that it finds on the map, though,
and where a call has taken the track off before, it is for that call to close it, which may be later
(`System.open_track_of_completed`).
-/

namespace Playout

namespace Session

variable {s : Session}

theorem isCancelled_begin_self (hs : s.SlotsInOrder) (hopen : s.closed = false) :
    s.begin.2.isCancelled s.begin.1 = false := by
  rw [isCancelled_begin, ← Bool.not_eq_true, isCancelled_iff, revoked_preempt]
  rintro (h | ⟨slot, hslot, hid, -⟩)
  · cases hopen.symm.trans (hs.revoked h)
  · have hmem : s.begin.1 ∈ s.preempt.slots.map (·.id) := List.mem_map.2 ⟨slot, hslot, hid⟩
    have hle := (hs.preempt.le_length hmem).2
    rw [length_preempt, begin_fst] at hle
    exact absurd hle (Nat.not_succ_le_self _)

end Session

namespace Task

variable {s s' : Session} {m m' : Counters} {t t' : Task}

theorem gone_of_ended (h : t.ending?.isSome = true) : t.phase = .gone := by
  unfold ending? at h
  split at h
  · next hstage => exact phase_of_stage hstage
  · cases h

theorem Turn.gone (h : Turn s t s' t') (hgone : t.phase = .gone) : t'.phase = .gone := by
  cases h with
  | goOn heq => rw [heq, hgone]
  | quit hphase | ask hphase | grant hphase | drop hphase => cases hgone.symm.trans hphase
  | leave hphase => rcases hphase with hphase | hphase <;> cases hgone.symm.trans hphase

theorem step_starting (hstage : t.stage = .starting) (hc : s.isCancelled t.slot = false) :
    t.step s m .go =
      some (t.enter (if (s.lease.request t.slot).holder = some t.slot then .fetching else .waiting),
        { s with lease := s.lease.request t.slot }, m) := by
  simp [step, stepOpening, hstage, hc]

end Task

namespace Studio

variable {config : Config} {st st' : Studio} {i : Nat}

/-! ## Behind one playback -/

/-- A playback that is gone has no handle, no lease, and no track on the map. -/
theorem InOrder.free_of_gone (h : st.InOrder) {t : Task} (ht : t ∈ st.tasks) (hgone : t.phase = .gone) :
    st.session.active ≠ some t.slot ∧ t.slot ∉ st.session.lease.queue ∧
      ∀ k, t.track = some k → k ∉ st.session.tracks.map Prod.snd ∧
        (st.session.room.hasClosed k = true ∨ Session.Handed st.calls k) := by
  refine ⟨?_, ?_, ?_⟩
  · intro hactive
    have hheld := (h.placed.inOrder.active t.slot hactive).2
    rw [h.placed.held t ht, hgone] at hheld
    simp at hheld
  · intro hmem
    rcases (h.queued.queue t ht).1 hmem with hphase | hphase <;> cases hgone.symm.trans hphase
  · intro k htrack
    have hclosed := (h.accounted.keeps t ht k htrack).closed_of_idle (by simp [hgone])
    refine ⟨?_, hclosed⟩
    rcases hclosed with hc | ⟨c, hc, hk⟩
    · exact h.accounted.custody.notMem_of_closed hc
    · intro hmem
      have hhand : k ∈ st.hands := by
        refine List.mem_append_right _ (List.mem_append_right _ (List.mem_flatMap.2 ⟨c, hc, ?_⟩))
        exact c.closes_subset hk
      exact (List.nodup_append.1 h.accounted.custody.handles).2.2 k hmem k hhand rfl

/-! ## Behind all of them -/

theorem InOrder.free_of_all_gone (h : st.InOrder) (hgone : ∀ t ∈ st.tasks, t.phase = .gone) :
    st.session.active = none ∧ st.session.lease.queue = [] := by
  constructor
  · by_contra hne
    obtain ⟨i, hi⟩ := Option.ne_none_iff_exists'.1 hne
    have hmem := Session.mem_ids_of_isHeld (h.placed.inOrder.active i hi).2
    rw [← h.placed.ids] at hmem
    obtain ⟨t, ht, rfl⟩ := List.mem_map.1 hmem
    exact (h.free_of_gone ht (hgone t ht)).1 hi
  · rw [List.eq_nil_iff_forall_not_mem]
    intro i hi
    obtain ⟨t, ht, rfl⟩ := List.mem_map.1 (h.queued.known i hi)
    exact (h.free_of_gone ht (hgone t ht)).2.1 hi

/-! ## The next one -/

/-- All playbacks before one are gone, and that one has not waited for the lease. -/
structure Next (st : Studio) (i : Nat) : Prop where
  begun : i ∈ st.tasks.map (·.slot)
  before : ∀ t ∈ st.tasks, t.slot < i → t.phase = .gone
  unhindered : ∀ t ∈ st.tasks, t.slot = i → t.phase ≠ .waiting

theorem Next.accept (h : st.InOrder) (hgone : ∀ t ∈ st.tasks, t.phase = .gone) (url : Url) (request : Request) :
    (st.accept config url request).Next st.session.begin.1 where
  begun := by
    rw [Studio.accept, List.map_append, List.mem_append]
    exact .inr (List.mem_singleton.2 rfl)
  before t ht hlt := by
    rcases List.mem_append.1 ht with ht | ht
    · exact hgone t ht
    · obtain rfl := List.mem_singleton.1 ht
      exact absurd hlt (lt_irrefl _)
  unhindered t ht hslot := by
    rcases List.mem_append.1 ht with ht | ht
    · exact absurd hslot (h.placed.slot_ne_begin ht)
    · obtain rfl := List.mem_singleton.1 ht
      intro hwaiting
      cases hwaiting

/-- While a playback before which all are gone can still ask for the lease, the lease is free. -/
theorem Next.holder_eq_none (hn : st.Next i) (h : st.InOrder) {t : Task} (ht : t ∈ st.tasks) (hslot : t.slot = i)
    (hfresh : t.phase = .fresh) (hlive : st.session.isCancelled t.slot = false) :
    st.session.lease.holder = none := by
  have hlast := h.placed.slot_of_live ht (by simp [hfresh]) hlive
  have hqueue : st.session.lease.queue = [] := by
    rw [List.eq_nil_iff_forall_not_mem]
    intro j hj
    obtain ⟨u, hu, rfl⟩ := List.mem_map.1 (h.queued.known j hj)
    have hphase := (h.queued.queue u hu).1 hj
    have hle : u.slot ≤ t.slot := hlast ▸ h.placed.slot_le hu
    rcases hle.lt_or_eq with hlt | heq
    · rw [hn.before u hu (hslot ▸ hlt)] at hphase
      simp at hphase
    · rw [h.placed.eq_of_slot hu ht heq, hfresh] at hphase
      simp at hphase
  exact (Lease.queue_eq_nil.1 hqueue).1

theorem Next.step (hn : st.Next i) (h : st.InOrder) (hs : Step config st st') : st'.Next i := by
  cases hs.progress with
  | aside ha =>
    refine ⟨?_, ?_, ?_⟩
    · rw [ha.tasks]
      exact hn.begun
    · rw [ha.tasks]
      exact hn.before
    · rw [ha.tasks]
      exact hn.unhindered
  | accept url request =>
    refine ⟨?_, ?_, ?_⟩
    · rw [Studio.accept, List.map_append, List.mem_append]
      exact .inl hn.begun
    · intro t ht hlt
      rcases List.mem_append.1 ht with ht | ht
      · exact hn.before t ht hlt
      · obtain rfl := List.mem_singleton.1 ht
        obtain ⟨u, hu, rfl⟩ := List.mem_map.1 hn.begun
        have hle := h.placed.slot_le hu
        have hnew : (Task.new config st.session.begin.1 url request).slot = st.session.slots.length + 1 :=
          st.session.begin_fst
        omega
    · intro t ht hslot
      rcases List.mem_append.1 ht with ht | ht
      · exact hn.unhindered t ht hslot
      · obtain rfl := List.mem_singleton.1 ht
        intro hwaiting
        cases hwaiting
  | @play before behind t t' cue s m m' htasks ht =>
    have hmem : t ∈ st.tasks := htasks ▸ mem_replaced.2 (.inl rfl)
    have hslot := ht.same.slot
    refine ⟨?_, ?_, ?_⟩
    · rw [slots_replaced hslot, ← htasks]
      exact hn.begun
    · intro u hu hlt
      rcases mem_replaced.1 hu with rfl | hu
      · exact ht.turn.gone (hn.before t hmem (hslot ▸ hlt))
      · exact hn.before u (htasks ▸ mem_of_others hu) hlt
    · intro u hu hui hwaiting
      rcases mem_replaced.1 hu with rfl | hu
      · have hti : t.slot = i := hslot ▸ hui
        cases ht.turn with
        | goOn heq => exact hn.unhindered t hmem hti (heq ▸ hwaiting)
        | ask hfresh hlive heq =>
          have hfree := hn.holder_eq_none h hmem hti hfresh hlive
          rw [heq, if_pos (Lease.holder_request_of_free hfree _)] at hwaiting
          cases hwaiting
        | quit _ heq | grant _ _ _ heq | leave _ heq | drop _ heq => cases heq.symm.trans hwaiting
      · exact hn.unhindered u (htasks ▸ mem_of_others hu) hui hwaiting

theorem Next.steps (hn : st.Next i) (h : st.InOrder) (hs : Relation.ReflTransGen (Step config) st st') :
    st'.Next i := by
  suffices hall : st'.InOrder ∧ st'.Next i from hall.2
  induction hs with
  | refl => exact ⟨h, hn⟩
  | tail _ hs ih => exact ⟨ih.1.step hs, ih.2.step ih.1 hs⟩

end Studio

/-! ## Places of playbacks -/

theorem Floor.Step.place {f f' : Floor} (h : Floor.Step f f') {k n : Nat} {t : Task}
    (hk : f.tasks[k]? = some (n, t)) : ∃ t', f'.tasks[k]? = some (n, t') ∧ t'.slot = t.slot := by
  have hlt := (List.getElem?_eq_some_iff.1 hk).1
  cases h with
  | rest | opened | changed | called | attended | dialed | proceeded => exact ⟨t, hk, rfl⟩
  | accepted => exact ⟨t, by rw [List.getElem?_append_left hlt, hk], rfl⟩
  | @played n' k' s s' u u' cue m m' hk' hs ht =>
    by_cases hkk : k' = k
    · subst hkk
      obtain ⟨rfl, rfl⟩ : n' = n ∧ u = t := Prod.mk.inj (Option.some.inj (hk'.symm.trans hk))
      exact ⟨u', List.getElem?_set_self hlt, (Task.transition_of_step ht).same.slot⟩
    · exact ⟨t, by rw [List.getElem?_set_ne hkk, hk], rfl⟩

namespace System

variable {σ : System} {n k : Nat} {st : Studio}

theorem place_of_run (σ : System) (moves : List Move) {t : Task} (hk : σ.service.tasks[k]? = some (n, t)) :
    ∃ t', (σ.run moves).service.tasks[k]? = some (n, t') ∧ t'.slot = t.slot := by
  induction moves generalizing σ t with
  | nil => exact ⟨t, hk, rfl⟩
  | cons m moves ih =>
    obtain ⟨t₁, hk₁, hslot₁⟩ := (σ.floor_step m).place hk
    obtain ⟨t', hk', hslot'⟩ := ih (σ.step m) hk₁
    exact ⟨t', hk', hslot'.trans hslot₁⟩

theorem accept_of_studio (hst : σ.studio n = some st) (url : Url) (request : Request) :
    ∃ v, σ.service.accept n url request = some (σ.service.tasks.length, v) ∧
      v.tasks[σ.service.tasks.length]? =
        some (n, Task.new σ.service.config st.session.begin.1 url request) ∧
      ({ σ with service := v } : System).studio n = some (st.accept σ.service.config url request) := by
  obtain ⟨hsession, htasks, herrands, hcalls, hlog⟩ := Floor.studio_eq_some.1 hst
  refine ⟨_, Service.accept_eq_some.2 ⟨st.session, hsession, rfl, rfl⟩, List.getElem?_concat_length, ?_⟩
  refine Floor.studio_eq_some.2 ⟨?_, ?_, herrands, hcalls, hlog⟩
  · have hs : σ.service.sessions[n]? = some st.session := hsession
    simp [floor, hs, Studio.accept]
  · have ht : partOf n σ.service.tasks = st.tasks := htasks
    simp [floor, ht, Studio.accept, partOf_cons_self]

theorem cue_of_free {v : Service} {s : Session} {t : Task} (hk : v.tasks[k]? = some (n, t))
    (hs : v.sessions[n]? = some s) (hstage : t.stage = .starting) (hlive : s.isCancelled t.slot = false)
    (hfree : s.lease.holder = none) :
    ∃ v', v.cue k .go = some v' ∧ v'.tasks[k]? = some (n, t.enter .fetching) ∧
      ∃ s', v'.sessions[n]? = some s' ∧ s'.lease.holder = some t.slot := by
  have hgot := Lease.holder_request_of_free hfree t.slot
  have hstep := Task.step_starting (m := v.counters) hstage hlive
  rw [if_pos hgot] at hstep
  refine ⟨_, Service.cue_eq_some.2 ⟨n, t, s, _, _, _, hk, hs, hstep, rfl⟩, ?_,
    { s with lease := s.lease.request t.slot }, ?_, hgot⟩
  · exact List.getElem?_set_self (List.getElem?_eq_some_iff.1 hk).1
  · simp [hs]

/-- When all playbacks of an open session are gone, the next one gets the lease when it runs first, and in no
continuation does it wait for the lease. -/
theorem start_of_free {σ : System} (hst : σ.studio n = some st) (hin : st.InOrder)
    (hgone : ∀ t ∈ st.tasks, t.phase = .gone) (hfree : st.session.lease.holder = none)
    (hopen : st.session.closed = false) {id : String} {request : Request} {url : Url}
    (hfind : σ.service.find id = .ok n) (hvalid : request.validate = .ok url) :
    ∃ k v, σ.service.start id request = (.ok k, v) ∧
      (∃ v' t s, v.cue k .go = some v' ∧ v'.tasks[k]? = some (n, t) ∧ t.stage = .fetching ∧
        v'.sessions[n]? = some s ∧ s.lease.holder = some t.slot) ∧
      ∀ more t, (({ σ with service := v } : System).run more).service.tasks[k]? = some (n, t) →
        t.stage ≠ .waiting := by
  obtain ⟨v, haccept, hk, hst'⟩ := accept_of_studio hst url request
  refine ⟨σ.service.tasks.length, v, ?_, ?_, ?_⟩
  · simp [Service.start, hfind, hvalid, haccept]
  · have hs := (Floor.studio_eq_some.1 hst').1
    have hlive := Session.isCancelled_begin_self hin.placed.inOrder hopen
    have hfree' : st.session.begin.2.lease.holder = none := by
      rw [st.session.sameTracks_begin.lease, hfree]
    obtain ⟨v', hcue, hk', s', hs', hholder⟩ := cue_of_free hk hs rfl hlive hfree'
    exact ⟨v', _, s', hcue, hk', rfl, hs', hholder⟩
  · intro more t ht hwaiting
    obtain ⟨st', hst₁, hsteps⟩ := steps_of_run _ more hst'
    have hin' : (st.accept σ.service.config url request).InOrder := hin.step (.accept url request)
    have hnext := (Studio.Next.accept hin hgone url request).steps hin' hsteps
    obtain ⟨t', hk', hslot⟩ := ({ σ with service := v } : System).place_of_run more hk
    obtain rfl : t' = t := (Prod.mk.inj (Option.some.inj (hk'.symm.trans ht))).2
    have hmem : t' ∈ st'.tasks := by
      rw [← (Floor.studio_eq_some.1 hst₁).2.1]
      exact mem_partOf.2 (List.mem_of_getElem? ht)
    exact hnext.unhindered t' hmem hslot (Task.phase_of_stage hwaiting)

/-- A track that a call is still to close was taken off the map of a session that is closed, or by a call to close a
track. -/
theorem closed_or_closeTrack_of_handed {config : Config} {moves : List Move}
    (hst : ((System.new config).run moves).studio n = some st) {c : Session.Call} (hc : c ∈ st.calls) {h : Handle}
    (hh : h ∈ c.closes) : st.session.closed = true ∨ ∃ name, .closeTrack n name ∈ moves := by
  cases c with
  | silencing =>
    rw [← (Floor.studio_eq_some.1 hst).2.2.2.1] at hc
    rcases (System.new config).closeTrack_of_run moves rfl (mem_partOf.1 hc) with ⟨d, -, hd⟩ | hname
    · cases hd
    · exact .inr hname
  | muting => exact .inl ((reachable_of_run hst).marked.closed hc rfl)
  | _ => cases hh

/-- **A session recovers from every playback.** One whose ticket is resolved has given up the handle and the lease, and
its track is off the map, and closed unless a call is still to close it. When all are, the next one gets the lease at
once. -/
theorem session_recovers (config : Config) (moves : List Move) (n : Nat) {st : Studio}
    (hst : ((System.new config).run moves).studio n = some st) :
    (∀ t ∈ st.tasks, t.ending?.isSome = true →
      st.session.active ≠ some t.slot ∧ st.session.lease.holder ≠ some t.slot ∧
      t.slot ∉ st.session.lease.waiting ∧
      (∀ h frame, .recorded (some t.slot) h frame ∈ st.log → t.track = some h) ∧
      ∀ h, t.track = some h → h ∉ st.session.tracks.map Prod.snd ∧
        (st.session.room.hasClosed h = true ∨
          ∃ c ∈ st.calls, h ∈ c.closes ∧ (st.session.closed = true ∨ ∃ name, .closeTrack n name ∈ moves))) ∧
    ((∀ t ∈ st.tasks, t.ending?.isSome = true) →
      st.session.isPlaying = false ∧ st.session.lease.holder = none ∧ st.session.lease.waiting = [] ∧
      (∀ i h frame, .recorded (some i) h frame ∈ st.log → h ∉ st.session.tracks.map Prod.snd ∧
        (st.session.room.hasClosed h = true ∨
          ∃ c ∈ st.calls, h ∈ c.closes ∧ (st.session.closed = true ∨ ∃ name, .closeTrack n name ∈ moves))) ∧
      ∀ id request url, st.session.closed = false →
        ((System.new config).run moves).service.find id = .ok n → request.validate = .ok url →
        ∃ k v, ((System.new config).run moves).service.start id request = (.ok k, v) ∧
          (∃ v' t s, v.cue k .go = some v' ∧ v'.tasks[k]? = some (n, t) ∧ t.stage = .fetching ∧
            v'.sessions[n]? = some s ∧ s.lease.holder = some t.slot) ∧
          ∀ more t, (({ (System.new config).run moves with service := v }).run more).service.tasks[k]? = some (n, t) →
            t.stage ≠ .waiting) := by
  have hin := (reachable_of_run hst).inOrder
  have hclosed : ∀ h, st.session.room.hasClosed h = true ∨ Session.Handed st.calls h →
      st.session.room.hasClosed h = true ∨
        ∃ c ∈ st.calls, h ∈ c.closes ∧ (st.session.closed = true ∨ ∃ name, .closeTrack n name ∈ moves) := by
    rintro h (hc | ⟨c, hc, hh⟩)
    · exact .inl hc
    · exact .inr ⟨c, hc, hh, closed_or_closeTrack_of_handed hst hc hh⟩
  constructor
  · intro t ht hended
    obtain ⟨hactive, hqueue, htracks⟩ := hin.free_of_gone ht (Task.gone_of_ended hended)
    refine ⟨hactive, ?_, ?_, ?_, fun h htrack => (htracks h htrack).imp_right (hclosed h)⟩
    · intro hholder
      exact hqueue (Lease.mem_queue_of_holder hholder)
    · intro hmem
      exact hqueue (List.mem_append_right _ hmem)
    · intro h frame hnote
      obtain ⟨u, hu, hslot, htrack⟩ := hin.accounted.written _ h frame hnote
      rwa [← hin.placed.eq_of_slot hu ht hslot]
  · intro hended
    have hgone : ∀ t ∈ st.tasks, t.phase = .gone := by
      intro t ht
      exact Task.gone_of_ended (hended t ht)
    obtain ⟨hactive, hqueue⟩ := hin.free_of_all_gone hgone
    obtain ⟨hholder, hwaiting⟩ := Lease.queue_eq_nil.1 hqueue
    refine ⟨?_, hholder, hwaiting, ?_, ?_⟩
    · rw [Session.isPlaying, hactive]
      rfl
    · intro i h frame hnote
      obtain ⟨t, ht, -, htrack⟩ := hin.accounted.written i h frame hnote
      exact ((hin.free_of_gone ht (hgone t ht)).2.2 h htrack).imp_right (hclosed h)
    · intro id request url hopen hfind hvalid
      exact start_of_free hst hin hgone hholder hopen hfind hvalid

theorem session_recovers_of_completed :
    ∃ st k v, ((System.new .terse).run Move.once).studio 0 = some st ∧ st.session.isPlaying = false ∧
      ((System.new .terse).run Move.once).service.start "room" { sourceUrl := "http://origin/a.wav" } = (.ok k, v) ∧
      ∃ v' t s, v.cue k .go = some v' ∧ v'.tasks[k]? = some (0, t) ∧ t.stage = .fetching ∧
        v'.sessions[0]? = some s ∧ s.lease.holder = some t.slot := by
  have hrun : (((System.new .terse).run Move.once).studio 0).map
      (fun st => (st.tasks.all (·.ending?.isSome), st.session.closed)) = some (true, false) := by
    decide +kernel
  have hfind : ((System.new .terse).run Move.once).service.find "room" = .ok 0 := by decide +kernel
  have hurl : ({ sourceUrl := "http://origin/a.wav" } : Request).validate.toOption.isSome = true := by decide +kernel
  obtain ⟨st, hst, hrun⟩ := Option.map_eq_some_iff.1 hrun
  obtain ⟨hended, hopen⟩ := Prod.mk.inj hrun
  rw [List.all_eq_true] at hended
  obtain ⟨hidle, -, -, -, hnext⟩ := (session_recovers .terse Move.once 0 hst).2 hended
  cases hvalid : ({ sourceUrl := "http://origin/a.wav" } : Request).validate with
  | error cause =>
    rw [hvalid] at hurl
    cases hurl
  | ok url =>
    obtain ⟨k, v, hstart, hcue, -⟩ := hnext "room" _ url hopen hfind hvalid
    exact ⟨st, k, v, hst, hidle, hstart, hcue⟩

/-- A playback is in the midst of its frames when a call takes its track off the map, and ends before that call closes
the track. -/
def overtaken : List Move :=
  .openSession "room" :: Move.started 0 ++ Move.played 0 ++
    [.closeTrack 0 "speaker", .proceed 0 (.cue .go)] ++ Move.playedOut 0

/-- In an open session a playback is completed, and the track that it wrote to is still open. -/
theorem open_track_of_completed :
    ∃ st t, ((System.new .terse).run overtaken).studio 0 = some st ∧ st.session.closed = false ∧ st.tasks = [t] ∧
      t.ending? = some (.ok (.completed 2)) ∧ t.track = some 0 ∧ st.players = [t.slot, t.slot] ∧
      st.session.room.framesOf 0 = [[7], [8]] ∧ st.session.room.hasClosed 0 = false := by
  have htask : (((System.new .terse).run overtaken).studio 0).map
      (fun st => st.tasks.map fun t => (t.ending?, t.track, t.slot)) =
      some [(some (.ok (.completed 2)), some 0, 1)] := by
    decide +kernel
  have hsession : (((System.new .terse).run overtaken).studio 0).map (fun st =>
      (st.session.closed, st.players, st.session.room.framesOf 0, st.session.room.hasClosed 0)) =
      some (false, [1, 1], [[7], [8]], false) := by
    decide +kernel
  obtain ⟨st, hst, htask⟩ := Option.map_eq_some_iff.1 htask
  rw [hst, Option.map_some, Option.some.injEq] at hsession
  simp only [Prod.mk.injEq, List.map_eq_singleton_iff] at htask hsession
  obtain ⟨t, htasks, hended, htrack, hslot⟩ := htask
  obtain ⟨hopen, hplayers, hframes, hclosed⟩ := hsession
  exact ⟨st, t, hst, hopen, htasks, hended, htrack, by rw [hplayers, hslot], hframes, hclosed⟩

end System

end Playout
