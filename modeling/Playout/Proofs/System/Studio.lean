import Mathlib
import Playout.Proofs.System.Step

/-!
# One session of a service

A studio is one session with everything that goes on in it. The studios of a service go their own ways. Apart
from the registry, the calls to it and the counters, a move of the service is one of a few (`System.floor_step`),
which takes one studio a step on and leaves the others alone (`Floor.Step.studio`), or opens a studio with
nothing in it (`Floor.Step.opened_studio`). So what holds of a new studio and is kept by every step holds of every
studio of every run (`System.reachable_of_run`), and what a run leads to from a studio is reached from it by
steps (`System.steps_of_run`).
-/

namespace Playout

/-! ## Parts -/

theorem exists_parts {α : Type} {l : List α} {k : Nat} {a : α} (h : l[k]? = some a) :
    ∃ before behind, l = before ++ a :: behind ∧ ∀ b, l.set k b = before ++ b :: behind := by
  obtain ⟨hk, rfl⟩ := List.getElem?_eq_some_iff.1 h
  refine ⟨l.take k, l.drop (k + 1), ?_, ?_⟩
  · rw [List.getElem_cons_drop, List.take_append_drop]
  · intro b
    rw [List.set_eq_take_append_cons_drop, if_pos hk]

theorem mem_replaced {α : Type} {before behind : List α} {a b : α} :
    b ∈ before ++ a :: behind ↔ b = a ∨ b ∈ before ++ behind := by
  rw [List.perm_middle.mem_iff, List.mem_cons]

theorem mem_of_others {α : Type} {before behind : List α} {a b : α} (hb : b ∈ before ++ behind) :
    b ∈ before ++ a :: behind :=
  mem_replaced.2 (.inr hb)

theorem mem_set_of_ne {α : Type} {l : List α} {i : Nat} {a b : α} (hi : l[i]? = some a) (hb : b ∈ l) (hne : b ≠ a)
    (c : α) : b ∈ l.set i c := by
  obtain ⟨before, behind, rfl, hset⟩ := exists_parts hi
  rw [hset]
  exact mem_of_others ((mem_replaced.1 hb).resolve_left hne)

theorem getElem?_of_concat {α : Type} {l : List α} {a b : α} {j : Nat} (h : (l ++ [a])[j]? = some b) :
    l[j]? = some b ∨ j = l.length ∧ b = a := by
  rcases Nat.lt_or_ge j l.length with hlt | hge
  · exact .inl (by rwa [List.getElem?_append_left hlt] at h)
  · rw [List.getElem?_append_right hge, List.getElem?_singleton] at h
    split at h
    · next hzero => exact .inr ⟨by omega, (Option.some.inj h).symm⟩
    · cases h

theorem sum_set {α β : Type} [AddCommMonoid β] (f : α → β) {l : List α} {k : Nat} {a : α} (h : l[k]? = some a)
    (b : α) : ((l.set k b).map f).sum + f a = (l.map f).sum + f b := by
  obtain ⟨before, behind, rfl, hset⟩ := exists_parts h
  rw [hset]
  simp only [List.map_append, List.map_cons, List.sum_append, List.sum_cons]
  abel

theorem map_modify_of_same {α β : Type} (g : α → β) {f : α → α} (l : List α) (k : Nat)
    (hf : ∀ a, l[k]? = some a → g (f a) = g a) : (l.modify k f).map g = l.map g := by
  apply List.ext_getElem?
  intro i
  by_cases hi : k = i
  · subst hi
    cases h : l[k]? with
    | none => simp [h]
    | some a => simp [h, hf a h]
  · simp [hi]

section Parts

variable {α : Type} {l l' : List (Nat × α)} {n m k : Nat} {a : α}

def partOf (n : Nat) (l : List (Nat × α)) : List α :=
  l.filterMap fun entry => if entry.1 = n then some entry.2 else none

@[simp] theorem partOf_nil : partOf n ([] : List (Nat × α)) = [] := rfl

@[simp] theorem partOf_append : partOf n (l ++ l') = partOf n l ++ partOf n l' := by
  simp [partOf]

theorem partOf_cons_self : partOf n ((n, a) :: l) = a :: partOf n l := by
  simp [partOf]

theorem partOf_cons_of_ne (h : m ≠ n) : partOf n ((m, a) :: l) = partOf n l := by
  simp [partOf, h]

@[simp] theorem partOf_map_self (as : List α) : partOf n (as.map (n, ·)) = as := by
  simp [partOf, List.filterMap_map]

theorem partOf_map_of_ne (h : m ≠ n) (as : List α) : partOf n (as.map (m, ·)) = [] := by
  simp [partOf, List.filterMap_map, h]

theorem mem_partOf : a ∈ partOf n l ↔ (n, a) ∈ l := by
  simp [partOf, ← and_assoc]

theorem partOf_eq_nil (h : ∀ entry ∈ l, entry.1 ≠ n) : partOf n l = [] := by
  simpa [partOf, List.filterMap_eq_nil_iff] using h

theorem partOf_set (h : l[k]? = some (n, a)) :
    ∃ before behind, partOf n l = before ++ a :: behind ∧
      ∀ b, partOf n (l.set k (n, b)) = before ++ b :: behind := by
  obtain ⟨before, behind, rfl, hset⟩ := exists_parts h
  refine ⟨partOf n before, partOf n behind, ?_, ?_⟩
  · rw [partOf_append, partOf_cons_self]
  · intro b
    rw [hset, partOf_append, partOf_cons_self]

theorem partOf_set_of_ne (h : l[k]? = some (m, a)) (hne : m ≠ n) (b : α) :
    partOf n (l.set k (m, b)) = partOf n l := by
  obtain ⟨before, behind, rfl, hset⟩ := exists_parts h
  rw [hset, partOf_append, partOf_cons_of_ne hne, partOf_append, partOf_cons_of_ne hne]

end Parts

/-! ## Studios -/

/-- A session and what goes on in it. -/
structure Studio where
  session : Session
  /-- The playbacks accepted for it, in the order in which they were begun. -/
  tasks : List Task := []
  errands : List Errand := []
  calls : List Session.Call := []
  log : List Note := []

def Studio.new (config : Config) (id : String) : Studio := { session := .new config id }

def Studio.accept (config : Config) (st : Studio) (url : Url) (request : Request) : Studio :=
  { st with
    session := st.session.begin.2
    tasks := st.tasks ++ [Task.new config st.session.begin.1 url request] }

/-- What can happen to a studio at once. -/
inductive Studio.Step (config : Config) (st : Studio) : Studio → Prop
  | stop : Step config st { st with session := st.session.preempt }
  | cancel (slot : Nat) : Step config st { st with session := st.session.cancel slot }
  | close : Step config st { st with calls := st.calls ++ [.shutting] }
  | closeTrack (name : String) : Step config st { st with calls := st.calls ++ [.unlisting name] }
  | audio (audio : RoomAudio) : Step config st { st with session := { st.session with audio } }
  | accept (url : Url) (request : Request) : Step config st (st.accept config url request)
  | track (name : String) : Step config st { st with errands := st.errands ++ [.track name .asking] }
  | push (name : String) (pcm : Bytes) :
      Step config st { st with errands := st.errands ++ [.push (Push.new st.session name pcm)] }
  | play {before behind : List Task} {t t' : Task} {cue : Cue} {s : Session} {m m' : Counters}
      (htasks : st.tasks = before ++ t :: behind) (ht : t.step st.session m cue = some (t', s, m')) :
      Step config st
        { st with
          session := s
          tasks := before ++ t' :: behind
          log := st.log ++ t.notes st.session cue t' }
  | attend {before behind : List Errand} {e e' : Errand} {cue : Cue} {s : Session} {m m' : Counters}
      (herrands : st.errands = before ++ e :: behind) (he : e.step st.session m cue = some (e', s, m')) :
      Step config st
        { st with
          session := s
          errands := before ++ e' :: behind
          log := st.log ++ e.notes e' }
  | proceed {before behind : List Session.Call} {c c' : Session.Call} {p : Session.Call.Prompt} {s : Session}
      (hcalls : st.calls = before ++ c :: behind) (hc : c.step st.session p = some (c', s)) :
      Step config st { st with session := s, calls := before ++ c' :: behind }

/-- A studio that can come about. -/
def Studio.Reachable (config : Config) (st : Studio) : Prop :=
  ∃ id, Relation.ReflTransGen (Studio.Step config) (.new config id) st

/-- What holds of every new studio and is kept by every step holds of every studio that can come about. -/
theorem Studio.Reachable.induction {config : Config} {P : Studio → Prop} (hnew : ∀ id, P (.new config id))
    (hstep : ∀ st st', P st → Studio.Step config st st' → P st') {st : Studio}
    (h : Studio.Reachable config st) : P st := by
  obtain ⟨id, h⟩ := h
  induction h with
  | refl => exact hnew id
  | tail _ hs ih => exact hstep _ _ ih hs

/-! ## Studios of a service -/

/-- The sessions of a service and what goes on in them, with the numbers of the sessions. -/
structure Floor where
  config : Config
  sessions : List Session := []
  tasks : List (Nat × Task) := []
  errands : List (Nat × Errand) := []
  calls : List (Nat × Session.Call) := []
  log : List (Nat × Note) := []

/-- What a move of a service can be to its sessions. -/
inductive Floor.Step (f : Floor) : Floor → Prop
  | rest : Step f f
  | opened (id : String) : Step f { f with sessions := f.sessions ++ [Session.new f.config id] }
  | changed (n : Nat) {c : Session → Session}
      (hc : ∀ st : Studio, Studio.Step f.config st { st with session := c st.session }) :
      Step f { f with sessions := f.sessions.modify n c }
  | accepted {n : Nat} {s : Session} (hs : f.sessions[n]? = some s) (url : Url) (request : Request) :
      Step f
        { f with
          sessions := f.sessions.modify n fun _ => s.begin.2
          tasks := f.tasks ++ [(n, Task.new f.config s.begin.1 url request)] }
  | called {n : Nat} {s : Session} {e : Session → Errand} (hs : f.sessions[n]? = some s)
      (he : ∀ st : Studio, Studio.Step f.config st { st with errands := st.errands ++ [e st.session] }) :
      Step f { f with errands := f.errands ++ [(n, e s)] }
  | played {n k : Nat} {s s' : Session} {t t' : Task} {cue : Cue} {m m' : Counters}
      (hk : f.tasks[k]? = some (n, t)) (hs : f.sessions[n]? = some s)
      (ht : t.step s m cue = some (t', s', m')) :
      Step f
        { f with
          sessions := f.sessions.modify n fun _ => s'
          tasks := f.tasks.set k (n, t')
          log := f.log ++ (t.notes s cue t').map (n, ·) }
  | attended {n i : Nat} {s s' : Session} {e e' : Errand} {cue : Cue} {m m' : Counters}
      (hi : f.errands[i]? = some (n, e)) (hs : f.sessions[n]? = some s)
      (he : e.step s m cue = some (e', s', m')) :
      Step f
        { f with
          sessions := f.sessions.modify n fun _ => s'
          errands := f.errands.set i (n, e')
          log := f.log ++ (e.notes e').map (n, ·) }
  | dialed {n : Nat} {s : Session} {c : Session.Call} (hs : f.sessions[n]? = some s)
      (hc : ∀ st : Studio, Studio.Step f.config st { st with calls := st.calls ++ [c] }) :
      Step f { f with calls := f.calls ++ [(n, c)] }
  | proceeded {n i : Nat} {s s' : Session} {c c' : Session.Call} {p : Session.Call.Prompt}
      (hi : f.calls[i]? = some (n, c)) (hs : f.sessions[n]? = some s) (hc : c.step s p = some (c', s')) :
      Step f { f with sessions := f.sessions.modify n fun _ => s', calls := f.calls.set i (n, c') }

namespace Floor

variable {f f' : Floor} {n : Nat} {st : Studio}

def studio (f : Floor) (n : Nat) : Option Studio :=
  f.sessions[n]?.map fun session =>
    { session
      tasks := partOf n f.tasks
      errands := partOf n f.errands
      calls := partOf n f.calls
      log := partOf n f.log }

theorem studio_eq_some :
    f.studio n = some st ↔
      f.sessions[n]? = some st.session ∧ partOf n f.tasks = st.tasks ∧ partOf n f.errands = st.errands ∧
        partOf n f.calls = st.calls ∧ partOf n f.log = st.log := by
  rw [studio, Option.map_eq_some_iff]
  constructor
  · rintro ⟨session, hs, rfl⟩
    exact ⟨hs, rfl, rfl, rfl, rfl⟩
  · rintro ⟨hs, ht, he, hc, hl⟩
    exact ⟨st.session, hs, by rw [ht, he, hc, hl]⟩

theorem Step.config (h : Step f f') : f'.config = f.config := by
  cases h <;> rfl

theorem Step.studio (h : Step f f') (hst : f.studio n = some st) :
    ∃ st', f'.studio n = some st' ∧ Relation.ReflGen (Studio.Step f.config) st st' := by
  obtain ⟨hsession, htasks, herrands, hcalls, hlog⟩ := studio_eq_some.1 hst
  cases h with
  | rest => exact ⟨st, hst, .refl⟩
  | opened id =>
    refine ⟨st, studio_eq_some.2 ⟨?_, htasks, herrands, hcalls, hlog⟩, .refl⟩
    rw [List.getElem?_append_left (List.getElem?_eq_some_iff.1 hsession).1, hsession]
  | changed k hc =>
    by_cases hk : k = n
    · refine ⟨_, studio_eq_some.2 ?_, .single (hc st)⟩
      exact ⟨by simp [hk, hsession], htasks, herrands, hcalls, hlog⟩
    · refine ⟨st, studio_eq_some.2 ⟨?_, htasks, herrands, hcalls, hlog⟩, .refl⟩
      simp [hk, hsession]
  | @accepted k s hs url request =>
    by_cases hk : k = n
    · subst hk
      obtain rfl : s = st.session := Option.some.inj (hs.symm.trans hsession)
      refine ⟨_, studio_eq_some.2 ?_, .single (.accept url request)⟩
      refine ⟨?_, ?_, herrands, hcalls, hlog⟩
      · simp [hs, Studio.accept]
      · simp [htasks, Studio.accept, partOf_cons_self]
    · refine ⟨st, studio_eq_some.2 ⟨?_, ?_, herrands, hcalls, hlog⟩, .refl⟩
      · simp [hk, hsession]
      · simp [htasks, partOf_cons_of_ne hk]
  | @called k s e hs he =>
    by_cases hk : k = n
    · subst hk
      obtain rfl : s = st.session := Option.some.inj (hs.symm.trans hsession)
      refine ⟨_, studio_eq_some.2 ?_, .single (he st)⟩
      exact ⟨hsession, htasks, by simp [herrands, partOf_cons_self], hcalls, hlog⟩
    · refine ⟨st, studio_eq_some.2 ⟨hsession, htasks, ?_, hcalls, hlog⟩, .refl⟩
      simp [herrands, partOf_cons_of_ne hk]
  | @played k i s s' t t' cue m m' hi hs ht =>
    by_cases hk : k = n
    · subst hk
      obtain rfl : s = st.session := Option.some.inj (hs.symm.trans hsession)
      obtain ⟨before, behind, hpart, hpart'⟩ := partOf_set hi
      refine ⟨_, studio_eq_some.2 ?_, .single (.play (htasks.symm.trans hpart) ht)⟩
      refine ⟨?_, hpart' t', herrands, hcalls, ?_⟩
      · simp [hs]
      · simp [hlog]
    · refine ⟨st, studio_eq_some.2 ⟨?_, ?_, herrands, hcalls, ?_⟩, .refl⟩
      · simp [hk, hsession]
      · exact (partOf_set_of_ne hi hk t').trans htasks
      · simp [hlog, partOf_map_of_ne hk]
  | @attended k i s s' e e' cue m m' hi hs he =>
    by_cases hk : k = n
    · subst hk
      obtain rfl : s = st.session := Option.some.inj (hs.symm.trans hsession)
      obtain ⟨before, behind, hpart, hpart'⟩ := partOf_set hi
      refine ⟨_, studio_eq_some.2 ?_, .single (.attend (herrands.symm.trans hpart) he)⟩
      refine ⟨?_, htasks, hpart' e', hcalls, ?_⟩
      · simp [hs]
      · simp [hlog]
    · refine ⟨st, studio_eq_some.2 ⟨?_, htasks, ?_, hcalls, ?_⟩, .refl⟩
      · simp [hk, hsession]
      · exact (partOf_set_of_ne hi hk e').trans herrands
      · simp [hlog, partOf_map_of_ne hk]
  | @dialed k s c hs hc =>
    by_cases hk : k = n
    · subst hk
      refine ⟨_, studio_eq_some.2 ?_, .single (hc st)⟩
      exact ⟨hsession, htasks, herrands, by simp [hcalls, partOf_cons_self], hlog⟩
    · refine ⟨st, studio_eq_some.2 ⟨hsession, htasks, herrands, ?_, hlog⟩, .refl⟩
      simp [hcalls, partOf_cons_of_ne hk]
  | @proceeded k i s s' c c' p hi hs hc =>
    by_cases hk : k = n
    · subst hk
      obtain rfl : s = st.session := Option.some.inj (hs.symm.trans hsession)
      obtain ⟨before, behind, hpart, hpart'⟩ := partOf_set hi
      refine ⟨_, studio_eq_some.2 ?_, .single (.proceed (hcalls.symm.trans hpart) hc)⟩
      exact ⟨by simp [hs], htasks, herrands, hpart' c', hlog⟩
    · refine ⟨st, studio_eq_some.2 ⟨?_, htasks, herrands, ?_, hlog⟩, .refl⟩
      · simp [hk, hsession]
      · exact (partOf_set_of_ne hi hk c').trans hcalls

/-- All that goes on goes on in sessions that were opened. -/
structure Numbered (f : Floor) : Prop where
  tasks : ∀ entry ∈ f.tasks, entry.1 < f.sessions.length
  errands : ∀ entry ∈ f.errands, entry.1 < f.sessions.length
  calls : ∀ entry ∈ f.calls, entry.1 < f.sessions.length
  log : ∀ entry ∈ f.log, entry.1 < f.sessions.length

theorem numbered_set {α : Type} {l : List (Nat × α)} {bound k i : Nat} (h : ∀ entry ∈ l, entry.1 < bound)
    (hk : k < bound) (a : α) : ∀ entry ∈ l.set i (k, a), entry.1 < bound := by
  intro entry hmem
  rcases List.mem_or_eq_of_mem_set hmem with hmem | rfl
  · exact h entry hmem
  · exact hk

theorem Step.numbered (h : Step f f') (hf : f.Numbered) : f'.Numbered := by
  obtain ⟨htasks, herrands, hcalls, hlog⟩ := hf
  cases h with
  | rest => exact ⟨htasks, herrands, hcalls, hlog⟩
  | opened id =>
    have hlater : ∀ {α : Type} {l : List (Nat × α)}, (∀ entry ∈ l, entry.1 < f.sessions.length) →
        ∀ entry ∈ l, entry.1 < (f.sessions ++ [Session.new f.config id]).length := by
      intro α l hl entry hmem
      exact (hl entry hmem).trans (by simp)
    exact ⟨hlater htasks, hlater herrands, hlater hcalls, hlater hlog⟩
  | changed k hc => exact ⟨by simpa using htasks, by simpa using herrands, by simpa using hcalls, by simpa using hlog⟩
  | accepted hs url request =>
    have hn := (List.getElem?_eq_some_iff.1 hs).1
    refine ⟨?_, by simpa using herrands, by simpa using hcalls, by simpa using hlog⟩
    simpa [or_imp, forall_and, hn] using htasks
  | called hs he =>
    have hn := (List.getElem?_eq_some_iff.1 hs).1
    refine ⟨htasks, ?_, hcalls, hlog⟩
    simpa [or_imp, forall_and, hn] using herrands
  | dialed hs hc =>
    have hn := (List.getElem?_eq_some_iff.1 hs).1
    refine ⟨htasks, herrands, ?_, hlog⟩
    simpa [or_imp, forall_and, hn] using hcalls
  | played hk hs ht =>
    have hn := (List.getElem?_eq_some_iff.1 hs).1
    refine ⟨?_, by simpa using herrands, by simpa using hcalls, ?_⟩
    · rw [List.length_modify]
      exact numbered_set htasks hn _
    · simpa [or_imp, forall_and, hn] using hlog
  | attended hi hs he =>
    have hn := (List.getElem?_eq_some_iff.1 hs).1
    refine ⟨by simpa using htasks, ?_, by simpa using hcalls, ?_⟩
    · rw [List.length_modify]
      exact numbered_set herrands hn _
    · simpa [or_imp, forall_and, hn] using hlog
  | proceeded hi hs hc =>
    have hn := (List.getElem?_eq_some_iff.1 hs).1
    refine ⟨by simpa using htasks, by simpa using herrands, ?_, by simpa using hlog⟩
    rw [List.length_modify]
    exact numbered_set hcalls hn _

theorem Step.opened_studio (h : Step f f') (hf : f.Numbered) (hnone : f.studio n = none)
    (hst : f'.studio n = some st) : ∃ id, st = .new f.config id := by
  obtain ⟨hsession, htasks, herrands, hcalls, hlog⟩ := studio_eq_some.1 hst
  have hn : f.sessions.length ≤ n := by simpa [Floor.studio] using hnone
  have hn' : n < f'.sessions.length := (List.getElem?_eq_some_iff.1 hsession).1
  cases h with
  | opened id =>
    have hlen : n = f.sessions.length := by
      simp only [List.length_append, List.length_singleton] at hn'
      omega
    have hnot : ∀ {α : Type} {l : List (Nat × α)}, (∀ entry ∈ l, entry.1 < f.sessions.length) → partOf n l = [] := by
      intro α l hl
      apply partOf_eq_nil
      intro entry hentry
      have hlt := hl entry hentry
      omega
    obtain ⟨session, tasks, errands, calls, log⟩ := st
    obtain rfl : [] = tasks := (hnot hf.tasks).symm.trans htasks
    obtain rfl : [] = errands := (hnot hf.errands).symm.trans herrands
    obtain rfl : [] = calls := (hnot hf.calls).symm.trans hcalls
    obtain rfl : [] = log := (hnot hf.log).symm.trans hlog
    refine ⟨id, ?_⟩
    simp only [hlen, List.getElem?_concat_length, Option.some.injEq] at hsession
    rw [← hsession]
    rfl
  | rest | called | dialed => exact absurd hn' hn.not_gt
  | changed | accepted | played | attended | proceeded =>
    simp only [List.length_modify] at hn'
    omega

end Floor

namespace System

variable {n : Nat} {st : Studio}

def floor (σ : System) : Floor where
  config := σ.service.config
  sessions := σ.service.sessions
  tasks := σ.service.tasks
  errands := σ.errands
  calls := σ.calls
  log := σ.log

def studio (σ : System) (n : Nat) : Option Studio := σ.floor.studio n

theorem studio_of_session {σ : System} {s : Session} (hs : σ.service.sessions[n]? = some s) :
    σ.studio n =
      some
        { session := s
          tasks := partOf n σ.service.tasks
          errands := partOf n σ.errands
          calls := partOf n σ.calls
          log := partOf n σ.log } :=
  Floor.studio_eq_some.2 ⟨hs, rfl, rfl, rfl, rfl⟩

def isClosed (σ : System) (n : Nat) : Bool := (σ.service.sessions[n]?.map (·.closed)).getD false

theorem isClosed_of_session {σ : System} {s : Session} (hs : σ.service.sessions[n]? = some s) :
    σ.isClosed n = s.closed := by
  simp [isClosed, hs]

theorem floor_dial (σ : System) (n : Nat) {c : Session.Call}
    (hc : ∀ st : Studio, Studio.Step σ.service.config st { st with calls := st.calls ++ [c] }) :
    Floor.Step σ.floor (σ.dial n c).floor := by
  rcases σ.dial_cases n c with heq | ⟨s, hs, heq⟩
  · rw [heq]
    exact .rest
  · rw [heq]
    exact .dialed hs hc

theorem Step.floor {σ σ' : System} {m : Move} (h : σ.Step m σ') : Floor.Step σ.floor σ'.floor := by
  cases h with
  | idle | unregistered | missed | drained | requested | stored | awaited => exact .rest
  | opened => exact .opened _
  | accepted _ hs => exact .accepted hs _ _
  | shutting | closing => exact σ.floor_dial _ fun _ => .close
  | closingTrack => exact σ.floor_dial _ fun _ => .closeTrack _
  | played hk hs ht => exact .played hk hs ht
  | cancelled => exact .changed _ fun _ => .cancel _
  | stopped => exact .changed _ fun _ => .stop
  | proceeded hi hs hc => exact .proceeded hi hs hc
  | @tracking _ name _ hs => exact .called hs (e := fun _ => .track name .asking) fun _ => .track name
  | @pushing _ name pcm _ hs => exact .called hs (e := fun s => .push (Push.new s name pcm)) fun _ => .push name pcm
  | attended hi hs he => exact .attended hi hs he
  | offered | taken | received | dropped => exact .changed _ fun _ => .audio _

theorem floor_step (σ : System) (m : Move) : Floor.Step σ.floor (σ.step m).floor := (σ.step_spec m).floor

/-! ### Runs -/

theorem config_step (σ : System) (m : Move) : (σ.step m).service.config = σ.service.config := (σ.floor_step m).config

/-- A move of a service takes a studio one step on, if any. -/
theorem studio_step (σ : System) (m : Move) (hst : σ.studio n = some st) :
    ∃ st', (σ.step m).studio n = some st' ∧ Relation.ReflGen (Studio.Step σ.service.config) st st' :=
  (σ.floor_step m).studio hst

theorem steps_of_run (σ : System) (moves : List Move) (hst : σ.studio n = some st) :
    ∃ st', (σ.run moves).studio n = some st' ∧
      Relation.ReflTransGen (Studio.Step σ.service.config) st st' := by
  induction moves generalizing σ st with
  | nil => exact ⟨st, hst, .refl⟩
  | cons m moves ih =>
    obtain ⟨st₁, hst₁, hstep⟩ := σ.studio_step m hst
    obtain ⟨st', hst', hsteps⟩ := ih (σ.step m) hst₁
    rw [config_step] at hsteps
    exact ⟨st', hst', hstep.to_reflTransGen.trans hsteps⟩

/-- The studios of a service can come about, and it is clear which goes with which session. -/
structure Sound (config : Config) (σ : System) : Prop where
  config_eq : σ.service.config = config
  numbered : σ.floor.Numbered
  reachable : ∀ n st, σ.studio n = some st → Studio.Reachable config st

theorem Sound.new (config : Config) : (System.new config).Sound config where
  config_eq := rfl
  numbered := by constructor <;> simp [floor, System.new, Service.new]
  reachable n st hst := by simp [studio, floor, Floor.studio, System.new, Service.new] at hst

theorem Sound.step {config : Config} {σ : System} (h : σ.Sound config) (m : Move) :
    (σ.step m).Sound config where
  config_eq := (σ.config_step m).trans h.config_eq
  numbered := (σ.floor_step m).numbered h.numbered
  reachable n st' hst' := by
    cases hst : σ.studio n with
    | none =>
      obtain ⟨id, rfl⟩ := (σ.floor_step m).opened_studio h.numbered hst hst'
      rw [show σ.floor.config = config from h.config_eq]
      exact ⟨id, .refl⟩
    | some st =>
      obtain ⟨id, hsteps⟩ := h.reachable n st hst
      obtain ⟨st₁, hst₁, hstep⟩ := σ.studio_step m hst
      obtain rfl : st₁ = st' := Option.some.inj (hst₁.symm.trans hst')
      rw [h.config_eq] at hstep
      exact ⟨id, hsteps.trans hstep.to_reflTransGen⟩

theorem Sound.run {config : Config} {σ : System} (h : σ.Sound config) (moves : List Move) :
    (σ.run moves).Sound config := by
  induction moves generalizing σ with
  | nil => exact h
  | cons m moves ih => exact ih (h.step m)

theorem reachable_of_run {config : Config} {moves : List Move} {n : Nat} {st : Studio}
    (hst : ((System.new config).run moves).studio n = some st) : Studio.Reachable config st :=
  ((Sound.new config).run moves).reachable n st hst

end System

end Playout
