import Mathlib
import Playout.Proofs.System.Standing

/-!
# The registry and its gauge

Opening a session, taking one off the registry and shutting down change the registry in one step each, and close
sessions in later ones. A session that is not registered is closed, or is still to be closed by one of these calls
(`System.Registered`), which wait until they have closed it (`System.Awaited`). Opening a session and taking one off
store the gauge in the step that changes the registry. A shutdown stores it in a step of its own, so that a session that
is registered before that step is lost on the gauge (`System.Gauged`).
-/

namespace Playout

/-- The sessions that a pending call is to close. -/
def Pending.leaving : Pending → List Nat
  | .start .. => []
  | .store numbers | .close numbers | .closing _ numbers => numbers

def Pending.stores : Pending → Bool
  | .store _ => true
  | _ => false

/-- The call has nothing to do with the registry any more. -/
def Pending.isOver : Pending → Bool
  | .start .. | .close [] => true
  | _ => false

/-- A move that is none of the calls to the registry. -/
def Move.isLocal : Move → Bool
  | .openSession _ | .unregister _ | .shutdown | .request .. | .resume _ => false
  | _ => true

namespace System

variable {σ : System} {n : Nat} {s : Session} {config : Config} {moves : List Move}

/-- No call to the registry is in progress. -/
def calm (σ : System) : Bool := σ.pending.all Pending.isOver

def registered (σ : System) : List Nat := σ.service.registry.map Prod.snd

/-- The move stores the gauge: whether what it stores is not the number of registered sessions. -/
def stores (σ : System) : Move → Option Bool
  | .openSession id => if (σ.service.registry.lookup id).isSome then none else some false
  | .unregister _ => some false
  | .resume i =>
    match σ.pending[i]? with
    | some (.store _) => some (!σ.service.registry.isEmpty)
    | _ => none
  | _ => none

/-- Behind a run the gauge was last stored when it was not the number of registered sessions that was stored. -/
def stale (old : Bool) : System → List Move → Bool
  | _, [] => old
  | σ, m :: moves => stale ((σ.stores m).getD old) (σ.step m) moves

theorem stale_concat (old : Bool) (σ : System) (moves : List Move) (m : Move) :
    stale old σ (moves ++ [m]) = ((σ.run moves).stores m).getD (stale old σ moves) := by
  induction moves generalizing σ old with
  | nil => rfl
  | cons m' moves ih => exact ih _ (σ.step m')

theorem local_step (σ : System) {m : Move} (hm : m.isLocal = true) :
    (σ.step m).service.registry = σ.service.registry ∧ (σ.step m).pending = σ.pending ∧
      (σ.step m).service.counters.sessions = σ.service.counters.sessions ∧
      (σ.step m).service.sessions.length = σ.service.sessions.length := by
  have hstep := σ.step_spec m
  generalize σ.step m = σ' at hstep ⊢
  cases hstep with
  | opened | unregistered | missed | drained | requested | accepted | stored | shutting | awaited => cases hm
  | idle | tracking | pushing => exact ⟨rfl, rfl, rfl, rfl⟩
  | played _ _ ht => exact ⟨rfl, rfl, (Task.transition_of_step ht).counters.2.2.2, List.length_modify ..⟩
  | attended _ _ he =>
    obtain ⟨frames, samples, rfl⟩ := Errand.step_counters he
    exact ⟨rfl, rfl, rfl, List.length_modify ..⟩
  | @offered n payload s =>
    refine ⟨rfl, rfl, ?_, List.length_modify ..⟩
    show (σ.service.counters.countOffer _).sessions = σ.service.counters.sessions
    cases (s.audio.offer payload).1 <;> rfl
  | closing | closingTrack => simp only [service_dial, pending_dial, and_self]
  | cancelled | stopped | proceeded | taken | received | dropped => exact ⟨rfl, rfl, rfl, List.length_modify ..⟩

/-! ## Who is registered -/

/-- A pending call is to close the session, or its call to close it is still to find out whether it is closed. -/
def Leaving (σ : System) (k : Nat) : Prop :=
  (∃ p ∈ σ.pending, k ∈ p.leaving) ∨ ∃ j rest, .closing j rest ∈ σ.pending ∧ σ.calls[j]? = some (k, .shutting)

/-- Ids are different, and each session is registered, or about to be closed, or closed. -/
structure Registered (σ : System) : Prop where
  ids : (σ.service.registry.map Prod.fst).Nodup
  known : ∀ k ∈ σ.registered, k < σ.service.sessions.length
  leaves : ∀ k < σ.service.sessions.length, k ∈ σ.registered ∨ σ.Leaving k ∨ σ.isClosed k = true

theorem shutting_step {j k : Nat} (hj : σ.calls[j]? = some (k, .shutting)) (m : Move) :
    (σ.step m).calls[j]? = some (k, .shutting) ∨ (σ.step m).isClosed k = true := by
  have hlt := (List.getElem?_eq_some_iff.1 hj).1
  have hstep := σ.callStep_step m
  generalize hcalls : (σ.step m).calls = calls at hstep
  cases hstep with
  | rest => exact .inl hj
  | close | resume | closeTrack => exact .inl (by rw [List.getElem?_append_left hlt, hj])
  | @proceed i n c c' p s s' hi hs hc hs' =>
    by_cases hij : i = j
    · subst hij
      obtain ⟨rfl, rfl⟩ := Prod.mk.inj (Option.some.inj (hi.symm.trans hj))
      have hs₁ : (σ.step (.proceed i p)).service.sessions[n]? = some s' := by simp [hs', hs]
      right
      rw [isClosed_of_session hs₁]
      cases hc with
      | late hclosed => exact hclosed
      | shut => rfl
    · exact .inl (by rw [List.getElem?_set_ne hij, hj])

theorem Leaving.of_local {k : Nat} (h : σ.Leaving k) {m : Move} (hm : m.isLocal = true) :
    (σ.step m).Leaving k ∨ (σ.step m).isClosed k = true := by
  rw [Leaving, (σ.local_step hm).2.1]
  rcases h with hp | ⟨j, rest, hp, hj⟩
  · exact .inl (.inl hp)
  · exact (shutting_step hj m).imp_left fun hj => .inr ⟨j, rest, hp, hj⟩

/-- One pending call is exchanged for another that is to close the same sessions, but for those that are closed. -/
theorem Leaving.of_set {σ' : System} {i k : Nat} {p q : Pending} (h : σ.Leaving k) (hi : σ.pending[i]? = some p)
    (hpending : σ'.pending = σ.pending.set i q)
    (hcalls : ∀ {j : Nat} {entry : Nat × Session.Call}, σ.calls[j]? = some entry → σ'.calls[j]? = some entry)
    (hq : k ∈ p.leaving → k ∈ q.leaving ∨ σ'.Leaving k)
    (hp : ∀ j rest, p = .closing j rest → σ.calls[j]? ≠ some (k, .shutting)) : σ'.Leaving k := by
  obtain ⟨before, behind, hparts, hset⟩ := exists_parts hi
  have hmem : ∀ p', p' ∈ σ.pending → p' = p ∨ p' ∈ σ'.pending := by
    intro p' hp'
    rw [hparts] at hp'
    rw [hpending, hset]
    exact (mem_replaced.1 hp').imp_right mem_of_others
  rcases h with ⟨p', hp', hk⟩ | ⟨j, rest, hp', hj⟩
  · rcases hmem p' hp' with rfl | hp'
    · rcases hq hk with hk | h
      · refine .inl ⟨q, ?_, hk⟩
        rw [hpending, hset]
        exact mem_replaced.2 (.inl rfl)
      · exact h
    · exact .inl ⟨p', hp', hk⟩
  · rcases hmem _ hp' with heq | hp'
    · exact absurd hj (hp j rest heq.symm)
    · exact .inr ⟨j, rest, hp', hcalls hj⟩

namespace Registered

theorem new (config : Config) : (System.new config).Registered where
  ids := List.nodup_nil
  known := nofun
  leaves := nofun

theorem of_same {σ' : System} (h : σ.Registered) (hregistry : σ'.service.registry = σ.service.registry)
    (hlength : σ'.service.sessions.length = σ.service.sessions.length)
    (hclosed : ∀ k, σ.isClosed k = true → σ'.isClosed k = true)
    (hleaving : ∀ k < σ.service.sessions.length, σ.Leaving k → σ'.Leaving k ∨ σ'.isClosed k = true) :
    σ'.Registered := by
  have hregistered : σ'.registered = σ.registered := congrArg (List.map Prod.snd) hregistry
  refine ⟨by rw [hregistry]; exact h.ids, by rw [hregistered, hlength]; exact h.known, ?_⟩
  intro k hk
  rw [hlength] at hk
  rw [hregistered]
  rcases h.leaves k hk with hin | hl | hc
  · exact .inl hin
  · exact .inr (hleaving k hk hl)
  · exact .inr (.inr (hclosed k hc))

theorem leaving_append {σ' : System} {k : Nat} (h : σ.Leaving k) {more : List Pending}
    (hpending : σ'.pending = σ.pending ++ more) (hcalls : σ'.calls = σ.calls) : σ'.Leaving k := by
  rw [Leaving, hpending, hcalls]
  rcases h with ⟨p, hp, hk⟩ | ⟨j, rest, hp, hj⟩
  · exact .inl ⟨p, List.mem_append_left _ hp, hk⟩
  · exact .inr ⟨j, rest, List.mem_append_left _ hp, hj⟩

theorem opened (h : σ.Registered) {σ' : System} {id : String} (hfree : σ.service.registry.lookup id = none)
    (hregistry : σ'.service.registry = (id, σ.service.sessions.length) :: σ.service.registry)
    (hlength : σ'.service.sessions.length = σ.service.sessions.length + 1)
    (hleaving : ∀ k, σ.Leaving k → σ'.Leaving k) (hclosed : ∀ k, σ.isClosed k = true → σ'.isClosed k = true) :
    σ'.Registered := by
  have hregistered : σ'.registered = σ.service.sessions.length :: σ.registered := by
    rw [registered, hregistry]
    rfl
  refine ⟨?_, ?_, ?_⟩
  · rw [hregistry]
    exact List.nodup_cons.2 ⟨Session.notMem_names_of_lookup hfree, h.ids⟩
  · rw [hregistered, hlength]
    intro k hk
    rcases List.mem_cons.1 hk with rfl | hk
    · exact Nat.lt_succ_self _
    · exact (h.known k hk).trans (Nat.lt_succ_self _)
  · rw [hregistered, hlength]
    intro k hk
    rcases Nat.lt_succ_iff_lt_or_eq.1 hk with hk | rfl
    · rcases h.leaves k hk with hin | hl | hc
      · exact .inl (List.mem_cons_of_mem _ hin)
      · exact .inr (.inl (hleaving k hl))
      · exact .inr (.inr (hclosed k hc))
    · exact .inl List.mem_cons_self

theorem unregistered (h : σ.Registered) {σ' : System} {id : String} (hid : σ.service.registry.lookup id = some n)
    (hregistry : σ'.service.registry = σ.service.registry.filter (·.1 ≠ id))
    (hlength : σ'.service.sessions.length = σ.service.sessions.length) (hleaving : ∀ k, σ.Leaving k → σ'.Leaving k)
    (hn : σ'.Leaving n) (hclosed : ∀ k, σ.isClosed k = true → σ'.isClosed k = true) : σ'.Registered := by
  obtain ⟨before, behind, hparts, hfilter⟩ := Session.filter_of_lookup h.ids hid
  rw [hfilter] at hregistry
  obtain ⟨hids, hknown, hleaves⟩ := h
  simp only [registered, hparts, List.map_append, List.map_cons] at hids hknown hleaves
  refine ⟨?_, ?_, ?_⟩
  · rw [hregistry, List.map_append]
    exact (List.nodup_middle.1 hids).of_cons
  · rw [registered, hregistry, List.map_append, hlength]
    intro k hk
    exact hknown k (List.perm_middle.mem_iff.2 (List.mem_cons_of_mem _ hk))
  · rw [registered, hregistry, List.map_append, hlength]
    intro k hk
    rcases hleaves k hk with hin | hl | hc
    · rcases List.mem_cons.1 (List.perm_middle.mem_iff.1 hin) with rfl | hin
      · exact .inr (.inl hn)
      · exact .inl hin
    · exact .inr (.inl (hleaving k hl))
    · exact .inr (.inr (hclosed k hc))

theorem drained (h : σ.Registered) {σ' : System} (hregistry : σ'.service.registry = [])
    (hlength : σ'.service.sessions.length = σ.service.sessions.length)
    (hleaving : ∀ k, k ∈ σ.registered ∨ σ.Leaving k → σ'.Leaving k)
    (hclosed : ∀ k, σ.isClosed k = true → σ'.isClosed k = true) : σ'.Registered := by
  have hregistered : σ'.registered = [] := by
    rw [registered, hregistry]
    rfl
  refine ⟨by rw [hregistry]; exact List.nodup_nil, by rw [hregistered]; exact nofun, ?_⟩
  rw [hlength]
  intro k hk
  rcases h.leaves k hk with hin | hl | hc
  · exact .inr (.inl (hleaving k (.inl hin)))
  · exact .inr (.inl (hleaving k (.inr hl)))
  · exact .inr (.inr (hclosed k hc))

theorem step (h : σ.Registered) (m : Move) : (σ.step m).Registered := by
  cases hm : m.isLocal with
  | true =>
    obtain ⟨hregistry, -, -, hlength⟩ := σ.local_step hm
    exact h.of_same hregistry hlength (fun k => isClosed_step m) fun k _ hk => hk.of_local hm
  | false =>
    have hclosed : ∀ k, σ.isClosed k = true → (σ.step m).isClosed k = true := fun k => isClosed_step m
    have hstep := σ.step_spec m
    generalize σ.step m = σ' at hclosed hstep ⊢
    cases hstep with
    | idle => exact h
    | opened hfree => exact h.opened hfree rfl List.length_append (fun _ hk => hk) hclosed
    | @unregistered id n hid =>
      refine h.unregistered hid rfl rfl (fun _ hk => leaving_append hk rfl rfl) (.inl ⟨.close [n], ?_, ?_⟩) hclosed
      · exact List.mem_append_right _ (List.mem_singleton_self _)
      · exact List.mem_singleton_self n
    | missed hid => exact h.of_same (Session.filter_of_lookup_none hid) rfl hclosed fun _ _ hk => .inl hk
    | drained =>
      refine h.drained rfl rfl ?_ hclosed
      rintro k (hk | hk)
      · exact .inl ⟨.store σ.registered, List.mem_append_right _ (List.mem_singleton_self _), hk⟩
      · exact leaving_append hk rfl rfl
    | requested => exact h.of_same rfl rfl hclosed fun _ _ hk => .inl (leaving_append hk rfl rfl)
    | accepted hi =>
      refine h.of_same rfl (List.length_modify ..) hclosed fun k _ hk => .inl ?_
      exact hk.of_set hi rfl id (absurd · List.not_mem_nil) (by rintro _ _ ⟨⟩)
    | stored hi =>
      refine h.of_same rfl rfl hclosed fun k _ hk => .inl ?_
      exact hk.of_set hi rfl id .inl (by rintro _ _ ⟨⟩)
    | @shutting i n rest hi =>
      refine h.of_same (by simp) (by simp) hclosed fun k hlt hk => .inl ?_
      have hdial : ∀ {j : Nat} {entry : Nat × Session.Call}, σ.calls[j]? = some entry →
          (σ.dial n .shutting).calls[j]? = some entry := by
        intro j entry hj
        rcases σ.dial_cases n .shutting with heq | ⟨_, -, heq⟩
        · rw [heq, hj]
        · rw [heq, ← hj]
          exact List.getElem?_append_left (List.getElem?_eq_some_iff.1 hj).1
      refine hk.of_set hi rfl hdial ?_ (by rintro _ _ ⟨⟩)
      intro hmem
      rcases List.mem_cons.1 hmem with rfl | hmem
      · refine .inr (.inr ⟨σ.calls.length, rest, ?_, ?_⟩)
        · exact List.mem_set (List.getElem?_eq_some_iff.1 hi).1 _
        · simp [dial, hlt]
      · exact .inl hmem
    | awaited hi hdone =>
      refine h.of_same rfl rfl hclosed fun k _ hk => .inl ?_
      refine hk.of_set hi rfl id .inl ?_
      rintro j rest heq hj
      cases heq
      -- the call that it waits for has returned
      rw [hj] at hdone
      cases hdone
    | _ => cases hm

theorem run (h : σ.Registered) (moves : List Move) : (σ.run moves).Registered := by
  induction moves generalizing σ with
  | nil => exact h
  | cons m moves ih => exact ih (h.step m)

/-- While no call to the registry is in progress, a session that is not registered is closed. -/
theorem closed_of_calm (h : σ.Registered) (hcalm : σ.calm = true) (hs : σ.service.sessions[n]? = some s)
    (hn : n ∉ σ.registered) : s.closed = true := by
  rcases h.leaves n (List.getElem?_eq_some_iff.1 hs).1 with hin | (⟨p, hp, hleaving⟩ | ⟨j, rest, hp, -⟩) | hc
  · exact absurd hin hn
  · have hover := List.all_eq_true.1 hcalm p hp
    unfold Pending.isOver at hover
    split at hover
    · cases hleaving
    · cases hleaving
    · cases hover
  · have hover := List.all_eq_true.1 hcalm _ hp
    cases hover
  · rwa [isClosed_of_session hs] at hc

end Registered

/-! ## Who waits for a session to be closed -/

/-- A pending call waits for each call to close a session that has not returned, unless somebody else made it. -/
def Awaited (moves : List Move) (σ : System) : Prop :=
  ∀ j n c, σ.calls[j]? = some (n, c) → c.closesSession = true → c.isDone = false →
    (∃ rest, .closing j rest ∈ σ.pending) ∨ .close n ∈ moves

namespace Awaited

theorem closing_step (σ : System) (m : Move) {j n : Nat} {c : Session.Call} {rest : List Nat}
    (hj : σ.calls[j]? = some (n, c)) (hdone : c.isDone = false) (hp : .closing j rest ∈ σ.pending) :
    .closing j rest ∈ (σ.step m).pending := by
  have hstep := σ.step_spec m
  generalize σ.step m = σ' at hstep ⊢
  cases hstep with
  | unregistered | drained | requested => exact List.mem_append_left _ hp
  | accepted hi | stored hi | shutting hi => exact mem_set_of_ne hi hp (by simp) _
  | awaited hi hdone' =>
    refine mem_set_of_ne hi hp ?_ _
    intro heq
    cases heq
    rw [hj, Option.any_some, hdone] at hdone'
    cases hdone'
  | closing | closingTrack => rwa [pending_dial]
  | _ => exact hp

theorem step {moves : List Move} (h : σ.Awaited moves) (m : Move) : (σ.step m).Awaited (moves ++ [m]) := by
  intro j n c hj hcloses hdone
  have hold : ∀ {d}, σ.calls[j]? = some (n, d) → d.closesSession = true → d.isDone = false →
      (∃ rest, .closing j rest ∈ (σ.step m).pending) ∨ .close n ∈ moves ++ [m] := by
    intro d hj hcloses hdone
    rcases h j n d hj hcloses hdone with ⟨rest, hp⟩ | hmem
    · exact .inl ⟨rest, closing_step σ m hj hdone hp⟩
    · exact .inr (List.mem_append_left _ hmem)
  have hstep := σ.callStep_step m
  generalize hcalls : (σ.step m).calls = calls at hstep hj
  cases hstep with
  | rest => exact hold hj hcloses hdone
  | close =>
    rcases getElem?_of_concat hj with hj | ⟨-, heq⟩
    · exact hold hj hcloses hdone
    · cases heq
      exact .inr (List.mem_append_right _ (List.mem_singleton_self _))
  | @resume i n' rest hi =>
    rcases getElem?_of_concat hj with hj | ⟨rfl, -⟩
    · exact hold hj hcloses hdone
    · -- the pending call waits for the call that it makes
      refine .inl ⟨rest, ?_⟩
      rw [System.step, System.resume, hi]
      exact List.mem_set (List.getElem?_eq_some_iff.1 hi).1 _
  | closeTrack =>
    rcases getElem?_of_concat hj with hj | ⟨-, heq⟩
    · exact hold hj hcloses hdone
    · cases heq
      cases hcloses
  | @proceed i n' c₁ c' p s s' hi hs hc =>
    by_cases hij : i = j
    · subst hij
      rw [List.getElem?_set_self (List.getElem?_eq_some_iff.1 hi).1] at hj
      obtain ⟨rfl, rfl⟩ := Prod.mk.inj (Option.some.inj hj)
      exact hold hi (hc.closesSession hcloses) hc.unfinished
    · rw [List.getElem?_set_ne hij] at hj
      exact hold hj hcloses hdone

theorem run (config : Config) (moves : List Move) : ((System.new config).run moves).Awaited moves := by
  induction moves using List.reverseRecOn with
  | nil => exact nofun
  | append_singleton moves m ih =>
    rw [run_concat]
    exact ih.step m

end Awaited

/-! ## The gauge -/

/-- When no store of the gauge is to come, the gauge is the number of registered sessions, or it is none where it was
stored by a shutdown when there were some. -/
def Gauged (old : Bool) (σ : System) : Prop :=
  (∀ p ∈ σ.pending, p.stores = false) →
    σ.service.counters.sessions = (if old then 0 else σ.service.registry.length) ∧
      (old = true → σ.service.registry ≠ [])

theorem Gauged.of_stored (h : σ.service.counters.sessions = σ.service.registry.length) : σ.Gauged false :=
  fun _ => ⟨h, fun hold => absurd hold Bool.false_ne_true⟩

theorem stores_set {pending : List Pending} {i : Nat} {p q : Pending} (hi : pending[i]? = some p)
    (hp : p.stores = false) (h : ∀ p' ∈ pending.set i q, p'.stores = false) : ∀ p' ∈ pending, p'.stores = false := by
  obtain ⟨before, behind, rfl, hset⟩ := exists_parts hi
  rw [hset] at h
  intro p' hp'
  rcases mem_replaced.1 hp' with rfl | hp'
  · exact hp
  · exact h p' (mem_of_others hp')

theorem Gauged.resume {old : Bool} (h : σ.Gauged old) (i : Nat) :
    (σ.step (.resume i)).Gauged ((σ.stores (.resume i)).getD old) := by
  rw [System.step, System.resume, System.stores]
  cases hi : σ.pending[i]? with
  | none => exact h
  | some p =>
    cases p with
    | start n url request =>
      dsimp only
      split
      · next ha =>
        obtain ⟨s, -, -, rfl⟩ := Service.accept_eq_some.1 ha
        exact fun hpending => h (stores_set hi rfl hpending)
      · exact h
    | store numbers =>
      intro _
      cases hregistry : σ.service.registry with
      | nil => simp [Service.gauge, hregistry]
      | cons entry registry => simp [Service.gauge, hregistry]
    | closing j rest =>
      dsimp only
      split
      · exact fun hpending => h (stores_set hi rfl hpending)
      · exact h
    | close numbers =>
      cases numbers with
      | nil => exact h
      | cons n rest =>
        simp only [Gauged, service_dial]
        exact fun hpending => h (stores_set hi rfl hpending)

theorem Gauged.step {old : Bool} (h : σ.Gauged old) (m : Move) : (σ.step m).Gauged ((σ.stores m).getD old) := by
  cases hm : m.isLocal with
  | true =>
    obtain ⟨hregistry, hpending, hgauge, -⟩ := σ.local_step hm
    have hstores : σ.stores m = none := by cases m <;> first | rfl | cases hm
    rw [hstores, Option.getD_none, Gauged, hregistry, hpending, hgauge]
    exact h
  | false =>
    cases m with
    | openSession id =>
      rw [System.step, Service.openSession, System.stores]
      cases hl : σ.service.registry.lookup id with
      | some n => exact h
      | none => exact .of_stored rfl
    | unregister id =>
      rw [System.step, Service.unregister, System.stores]
      cases hl : σ.service.registry.lookup id with
      | some n => exact .of_stored rfl
      | none => exact .of_stored rfl
    | shutdown =>
      intro hpending
      cases hpending (.store σ.registered) (List.mem_append_right _ (List.mem_singleton_self _))
    | resume i => exact h.resume i
    | request id request =>
      show Gauged old (σ.step (.request id request))
      rw [System.step]
      split
      · exact fun hpending => h fun p hp => hpending p (List.mem_append_left _ hp)
      · exact h
    | _ => cases hm

theorem gauged_of_run (config : Config) (moves : List Move) :
    ((System.new config).run moves).Gauged (stale false (System.new config) moves) := by
  induction moves using List.reverseRecOn with
  | nil => exact .of_stored rfl
  | append_singleton moves m ih =>
    rw [stale_concat, run_concat]
    exact ih.step m

theorem stores_of_calm (hcalm : σ.calm = true) : ∀ p ∈ σ.pending, p.stores = false := by
  intro p hp
  have hover := List.all_eq_true.1 hcalm p hp
  cases p with
  | start | close => rfl
  | store | closing => cases hover

/-- While no call to the registry is in progress, a closed session has left its room, unless somebody else has called it
to close it, and that call is still to leave the room. -/
theorem left_of_calm (hcalm : ((System.new config).run moves).calm = true)
    (hs : ((System.new config).run moves).service.sessions[n]? = some s) (hclosed : s.closed = true) :
    s.room.disconnects = 1 ∨
      s.room.disconnects = 0 ∧ .close n ∈ moves ∧
        ∃ c, (n, c) ∈ ((System.new config).run moves).calls ∧ c.closing = true ∧ c.hasLeft = false := by
  have hmarked := (reachable_of_run (studio_of_session hs)).marked
  refine (hmarked.left_or_closing hclosed).imp_right ?_
  rintro ⟨hzero, c, hc, hclosing, hleft⟩
  have hmem := mem_partOf.1 hc
  refine ⟨hzero, ?_, c, hmem, hclosing, hleft⟩
  obtain ⟨j, hj⟩ := List.mem_iff_getElem?.1 hmem
  have hkind : c.closesSession = true ∧ c.isDone = false := by
    cases c with
    | revoking | draining | muting => exact ⟨rfl, rfl⟩
    | left => cases hleft
    | _ => cases hclosing
  rcases Awaited.run config moves j n c hj hkind.1 hkind.2 with ⟨rest, hp⟩ | hmade
  · have hover := List.all_eq_true.1 hcalm _ hp
    cases hover
  · exact hmade

/-- **The registry and its gauge.** Ids differ. While no call to the registry is in progress, a session that left it is
closed and has left its room once, unless somebody else is just closing it, and the gauge is right unless a shutdown
stored it last when there were sessions. -/
theorem registry_and_gauge_of_run (config : Config) (moves : List Move) :
    let σ := (System.new config).run moves
    (σ.service.registry.map Prod.fst).Nodup ∧
    (σ.calm = true →
      (∀ n s, σ.service.sessions[n]? = some s → n ∉ σ.registered →
        s.closed = true ∧
        (s.room.disconnects = 1 ∨
          s.room.disconnects = 0 ∧ .close n ∈ moves ∧
            ∃ c, (n, c) ∈ σ.calls ∧ c.closing = true ∧ c.hasLeft = false)) ∧
      (σ.service.counters.sessions = σ.service.registry.length ↔ stale false (System.new config) moves = false) ∧
      (σ.service.counters.sessions ≠ σ.service.registry.length → σ.service.counters.sessions = 0)) := by
  intro σ
  have h : σ.Registered := (Registered.new config).run moves
  refine ⟨h.ids, ?_⟩
  intro hcalm
  obtain ⟨hgauge, hsome⟩ := gauged_of_run config moves (stores_of_calm hcalm)
  refine ⟨?_, ?_, ?_⟩
  · intro n s hs hn
    have hclosed := h.closed_of_calm hcalm hs hn
    exact ⟨hclosed, left_of_calm hcalm hs hclosed⟩
  · cases hstale : stale false (System.new config) moves with
    | true =>
      have hpos := List.length_pos_iff.2 (hsome hstale)
      rw [hgauge, hstale, if_pos rfl]
      constructor
      · intro heq
        have hlength : 0 < σ.service.registry.length := hpos
        omega
      · intro hfresh
        cases hfresh
    | false =>
      rw [hgauge, hstale]
      exact ⟨fun _ => rfl, fun _ => rfl⟩
  · intro hne
    rw [hgauge] at hne ⊢
    split at hne
    · next hstale =>
      rw [if_pos hstale]
      rfl
    · exact absurd rfl hne

theorem registry_and_gauge_of_calls_in_turn :
    let moves : List Move := [.openSession "first", .openSession "second", .unregister "first", .resume 0] ++
      Move.hungUp 0 ++ [.resume 0, .shutdown, .resume 1, .resume 1] ++ Move.hungUp 1 ++
      [.resume 1, .openSession "third"]
    let σ := (System.new {}).run moves
    σ.calm = true ∧ σ.service.registry = [("third", 2)] ∧ σ.service.counters.sessions = σ.service.registry.length ∧
      ∀ n s, σ.service.sessions[n]? = some s → n ∉ σ.registered → s.closed = true ∧ s.room.disconnects = 1 := by
  intro moves σ
  have hcalm : σ.calm = true := by decide +kernel
  have hmade : ∀ n, .close n ∉ moves := by simp [moves, Move.hungUp]
  obtain ⟨-, hrun⟩ := registry_and_gauge_of_run {} moves
  obtain ⟨hleft, hgauge, -⟩ := hrun hcalm
  refine ⟨hcalm, by decide +kernel, hgauge.2 (by decide +kernel), ?_⟩
  intro n s hs hn
  obtain ⟨hclosed, hleft⟩ := hleft n s hs hn
  exact ⟨hclosed, hleft.resolve_right fun hmid => hmade n hmid.2.1⟩

/-- A session is opened between the two steps of a shutdown. Then no call is in progress, the session is registered, and
the gauge shows none. -/
theorem gauge_of_open_in_shutdown :
    let σ := (System.new {}).run [.shutdown, .openSession "room", .resume 0]
    σ.calm = true ∧ σ.service.registry = [("room", 0)] ∧ σ.service.counters.sessions = 0 := by
  decide +kernel

end System

end Playout
