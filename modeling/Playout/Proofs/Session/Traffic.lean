import Mathlib
import Playout.Proofs.Session.Call
import Playout.Proofs.System.Accounted

/-!
# No published track leaks

A session with any number of calls to it that request tracks, close tracks and close the session, in any order and
with any steps of other calls between two steps of one. In every state that such a run can come to
(`Traffic.Sound`), each track the room ever created is on the map, or in the hands of a call that is still going on,
or closed; and once a call has emptied the map of a closed session, nothing is put on it any more.
-/

namespace Playout.Session

/-- A session and the calls to it, in the order in which they were made. -/
structure Traffic where
  session : Session
  calls : List Call := []

namespace Traffic

inductive Act where
  /-- Somebody requests a track, closes one, or closes the session. -/
  | track (name : String)
  | closeTrack (name : String)
  | close
  /-- A call goes on. -/
  | attend (i : Nat) (p : Call.Prompt)
deriving Repr

def new (config : Config) (id : String) : Traffic := { session := .new config id }

def dial (x : Traffic) (c : Call) : Traffic := { x with calls := x.calls ++ [c] }

def attend (x : Traffic) (i : Nat) (p : Call.Prompt) : Traffic :=
  match x.calls[i]? with
  | none => x
  | some c =>
    match c.step x.session p with
    | none => x
    | some (c, s) => { session := s, calls := x.calls.set i c }

/-- What happens in an act. An act that does not fit changes nothing. -/
def step (x : Traffic) : Act → Traffic
  | .track name => x.dial (.looking name)
  | .closeTrack name => x.dial (.unlisting name)
  | .close => x.dial .shutting
  | .attend i p => x.attend i p

def run (x : Traffic) (acts : List Act) : Traffic := acts.foldl step x

def hands (x : Traffic) : List Handle := x.calls.flatMap Call.hands

/-- What a request for a track has come to, under the name on the map, once it has returned. -/
def returned? (x : Traffic) (i : Nat) : Option (String × Except DeliveryError Handle) :=
  x.calls[i]?.bind Call.returned?

/-- An act does not take the track of a name off the map. -/
def spares (name : String) (x : Traffic) : Act → Bool
  | .attend i _ => x.calls[i]?.all (Call.spares name)
  | _ => true

/-- No act of a run takes the track of a name off the map. -/
def spared (name : String) : Traffic → List Act → Bool
  | _, [] => true
  | x, a :: acts => x.spares name a && spared name (x.step a) acts

variable {x : Traffic} {a : Act} {acts more : List Act} {i : Nat} {name : String} {h : Handle}
  {result : Except DeliveryError Handle}

/-! ## What an act does -/

theorem step_cases (x : Traffic) (a : Act) :
    x.step a = x ∨ (∃ c, c.fresh = true ∧ x.step a = x.dial c) ∨
      ∃ i p c c' s', a = .attend i p ∧ x.calls[i]? = some c ∧ Call.Transition x.session c p c' s' ∧
        x.step a = ⟨s', x.calls.set i c'⟩ := by
  cases a with
  | track name => exact .inr (.inl ⟨.looking name, rfl, rfl⟩)
  | closeTrack name => exact .inr (.inl ⟨.unlisting name, rfl, rfl⟩)
  | close => exact .inr (.inl ⟨.shutting, rfl, rfl⟩)
  | attend i p =>
    have hattend : x.step (.attend i p) = x.attend i p := rfl
    rw [hattend, attend]
    cases hi : x.calls[i]? with
    | none => exact .inl rfl
    | some c =>
      cases hs : c.step x.session p with
      | none =>
        left
        simp only [hs]
      | some next =>
        refine .inr (.inr ⟨i, p, c, next.1, next.2, rfl, hi, Call.transition_of_step hs, ?_⟩)
        simp only [hs]

theorem run_of_step {P : Traffic → Prop} (hstep : ∀ x a, P x → P (x.step a)) (hx : P x) (acts : List Act) :
    P (x.run acts) := by
  induction acts generalizing x with
  | nil => exact hx
  | cons a acts ih => exact ih (hstep x a hx)

theorem run_of_transition {P : Session → Prop}
    (hstep : ∀ {s c p c' s'}, Call.Transition s c p c' s' → P s → P s') (hx : P x.session) (acts : List Act) :
    P (x.run acts).session := by
  refine run_of_step (P := fun x => P x.session) ?_ hx acts
  intro x a hx
  rcases x.step_cases a with heq | ⟨c, -, heq⟩ | ⟨i, p, c, c', s', -, -, ht, heq⟩
  · rwa [heq]
  · rwa [heq]
  · rw [heq]
    exact hstep ht hx

theorem run_append (x : Traffic) (acts more : List Act) : x.run (acts ++ more) = (x.run acts).run more :=
  List.foldl_append

/-! ## What is always true -/

/-- What is true of a session and the calls to it. -/
structure Sound (x : Traffic) : Prop where
  answered : x.session.Answered x.hands
  closing : ∀ c ∈ x.calls, c.closing = true → x.session.closed = true
  spent : ∀ c ∈ x.calls, c.drained = true → x.session.Spent

namespace Sound

theorem new (config : Config) (id : String) : (Traffic.new config id).Sound where
  answered := .new config id
  closing := by simp [Traffic.new]
  spent := by simp [Traffic.new]

theorem dial (hx : x.Sound) {c : Call} (hc : c.fresh = true) : (x.dial c).Sound := by
  obtain ⟨hhands, hclosing, hdrained, -⟩ := Call.of_fresh hc
  have hsame : (x.dial c).hands = x.hands := by simp [hands, Traffic.dial, hhands]
  have hcalls : ∀ other ∈ (x.dial c).calls, other ∈ x.calls ∨ other = c := by simp [Traffic.dial]
  refine ⟨?_, ?_, ?_⟩
  · rw [hsame]
    exact hx.answered
  · intro other hmem hother
    rcases hcalls other hmem with hmem | rfl
    · exact hx.closing other hmem hother
    · cases hclosing.symm.trans hother
  · intro other hmem hother
    rcases hcalls other hmem with hmem | rfl
    · exact hx.spent other hmem hother
    · cases hdrained.symm.trans hother

theorem step (hx : x.Sound) (a : Act) : (x.step a).Sound := by
  rcases x.step_cases a with heq | ⟨c, hc, heq⟩ | ⟨i, p, c, c', s', -, hi, ht, heq⟩
  · rwa [heq]
  · rw [heq]
    exact hx.dial hc
  rw [heq]
  have hmem : c ∈ x.calls := List.mem_of_getElem? hi
  have hclosing := ht.closing (hx.closing c hmem)
  -- only the hands of this call change, so they are brought to the front
  obtain ⟨before, behind, hcalls, hset⟩ := exists_parts hi
  have hperm : ∀ other, ((before ++ other :: behind).flatMap Call.hands).Perm
      (other.hands ++ (before ++ behind).flatMap Call.hands) := by
    intro other
    simpa only [List.append_nil] using Studio.Accounted.perm_flatMap Call.hands before behind other []
  refine ⟨?_, ?_, ?_⟩
  · have hanswered := hx.answered
    rw [hands, hcalls] at hanswered
    rw [hands, hset]
    exact (ht.answered (hanswered.perm (hperm c))).perm (hperm c').symm
  · intro other hother hc
    rcases List.mem_or_eq_of_mem_set hother with hother | rfl
    · exact ht.closed (hx.closing other hother hc)
    · exact hclosing hc
  · intro other hother hc
    rcases List.mem_or_eq_of_mem_set hother with hother | rfl
    · exact ht.spent (hx.spent other hother hc)
    · exact ht.spent_of_drained (hx.closing c hmem) (hx.spent c hmem) hc

theorem run (hx : x.Sound) (acts : List Act) : (x.run acts).Sound := run_of_step (fun _ a hx => hx.step a) hx acts

end Sound

theorem mem_tracks_run (hspared : x.spared name acts = true) (hmem : (name, h) ∈ x.session.tracks) :
    (name, h) ∈ (x.run acts).session.tracks := by
  induction acts generalizing x with
  | nil => exact hmem
  | cons a acts ih =>
    rw [spared, Bool.and_eq_true] at hspared
    refine ih hspared.2 ?_
    rcases x.step_cases a with heq | ⟨c, -, heq⟩ | ⟨i, p, c, c', s', rfl, hi, ht, heq⟩
    · rwa [heq]
    · rwa [heq]
    · rw [heq]
      refine ht.mem_tracks ?_ hmem
      have hspares := hspared.1
      rwa [spares, hi, Option.all_some] at hspares

theorem spared_append (name : String) (x : Traffic) (acts more : List Act) :
    x.spared name (acts ++ more) = (x.spared name acts && (x.run acts).spared name more) := by
  induction acts generalizing x with
  | nil => rfl
  | cons a acts ih => simp only [List.cons_append, spared, ih, Bool.and_assoc, run, List.foldl_cons]

/-! ## Returning -/

theorem returned_step {r : String × Except DeliveryError Handle} (hr : x.returned? i = some r) (a : Act) :
    (x.step a).returned? i = some r := by
  obtain ⟨c₀, hc₀, hr₀⟩ := Option.bind_eq_some_iff.1 hr
  rcases x.step_cases a with heq | ⟨c, -, heq⟩ | ⟨j, p, c, c', s', -, hj, ht, heq⟩
  · rwa [heq]
  · rw [heq]
    refine Option.bind_eq_some_iff.2 ⟨c₀, ?_, hr₀⟩
    rw [dial, List.getElem?_append_left (List.getElem?_eq_some_iff.1 hc₀).1, hc₀]
  · rw [heq]
    -- a call that has returned takes no step
    have hne : j ≠ i := by
      rintro rfl
      cases hj.symm.trans hc₀
      cases ht.returned.symm.trans hr₀
    refine Option.bind_eq_some_iff.2 ⟨c₀, ?_, hr₀⟩
    rw [List.getElem?_set_ne hne, hc₀]

theorem returned_run {r : String × Except DeliveryError Handle} (hr : x.returned? i = some r) (acts : List Act) :
    (x.run acts).returned? i = some r :=
  run_of_step (P := fun x => x.returned? i = some r) (fun _ a hr => returned_step hr a) hr acts

theorem result_of_step (hnone : x.returned? i = none) (hr : (x.step a).returned? i = some (name, result)) :
    (∃ h, result = .ok h ∧ (name, h) ∈ (x.step a).session.tracks) ∨
      (∃ cause, result = .error cause ∧ a = .attend i (.cue (.published (.error cause)))) ∨
        result = .error .roomClosed ∧ x.session.closed = true := by
  rcases x.step_cases a with heq | ⟨c, hc, heq⟩ | ⟨j, p, c, c', s', rfl, hj, ht, heq⟩
  · rw [heq, hnone] at hr
    cases hr
  · obtain ⟨c₀, hc₀, hr₀⟩ := Option.bind_eq_some_iff.1 (heq ▸ hr)
    rw [dial, List.getElem?_append] at hc₀
    split at hc₀
    · rw [returned?, hc₀, Option.bind_some, hr₀] at hnone
      cases hnone
    · obtain rfl := List.mem_singleton.1 (List.mem_of_getElem? hc₀)
      cases (Call.of_fresh hc).2.2.2.symm.trans hr₀
  · rw [heq] at hr ⊢
    obtain ⟨c₀, hc₀, hr₀⟩ := Option.bind_eq_some_iff.1 hr
    by_cases hij : j = i
    · subst hij
      rw [List.getElem?_set_self (List.getElem?_eq_some_iff.1 hj).1] at hc₀
      cases hc₀
      obtain hok | ⟨cause, rfl, rfl⟩ | hclosed := ht.result hr₀
      · exact .inl hok
      · exact .inr (.inl ⟨cause, rfl, rfl⟩)
      · exact .inr (.inr hclosed)
    · rw [List.getElem?_set_ne hij] at hc₀
      rw [returned?, hc₀, Option.bind_some, hr₀] at hnone
      cases hnone

theorem exists_return {r : String × Except DeliveryError Handle} (hnone : x.returned? i = none)
    (hr : (x.run acts).returned? i = some r) :
    ∃ before a behind, acts = before ++ a :: behind ∧ (x.run before).returned? i = none ∧
      ((x.run before).step a).returned? i = some r := by
  induction acts generalizing x with
  | nil => cases hnone.symm.trans hr
  | cons a acts ih =>
    cases hstep : (x.step a).returned? i with
    | none =>
      obtain ⟨before, b, behind, rfl, hbefore, hb⟩ := ih hstep hr
      exact ⟨a :: before, b, behind, rfl, hbefore, hb⟩
    | some r' =>
      refine ⟨[], a, acts, rfl, hnone, ?_⟩
      obtain rfl : r' = r := Option.some.inj ((returned_run hstep acts).symm.trans hr)
      exact hstep

/-- A request that returns in a run without a track fails as the room does, or its session is closed. -/
theorem error_of_run {cause : DeliveryError} (hnone : x.returned? i = none)
    (hr : (x.run acts).returned? i = some (name, .error cause)) :
    .attend i (.cue (.published (.error cause))) ∈ acts ∨
      cause = .roomClosed ∧ (x.run acts).session.closed = true := by
  obtain ⟨before, a, behind, rfl, hbefore, ha⟩ := exists_return hnone hr
  obtain ⟨h, hok, -⟩ | ⟨cause, hcause, rfl⟩ | ⟨hcause, hclosed⟩ := result_of_step hbefore ha
  · cases hok
  · cases hcause
    exact .inl (by simp)
  · cases hcause
    refine .inr ⟨rfl, ?_⟩
    rw [run_append]
    exact run_of_transition (P := (·.closed = true)) Call.Transition.closed hclosed (a :: behind)

/-- A request that returns a track in a run that spares the name returns the one that is on the map at the end. -/
theorem mem_tracks_of_run (hnone : x.returned? i = none) (hr : (x.run acts).returned? i = some (name, .ok h))
    (hspared : x.spared name acts = true) : (name, h) ∈ (x.run acts).session.tracks := by
  obtain ⟨before, a, behind, rfl, hbefore, ha⟩ := exists_return hnone hr
  obtain ⟨k, hok, hmem⟩ | ⟨cause, hcause, -⟩ | ⟨hcause, -⟩ := result_of_step hbefore ha
  · cases hok
    rw [spared_append, Bool.and_eq_true, spared, Bool.and_eq_true] at hspared
    have hbehind : (name, h) ∈ (((x.run before).step a).run behind).session.tracks :=
      mem_tracks_run hspared.2.2 hmem
    rwa [run_append]
  · cases hcause
  · cases hcause

/-- In a session whose map was emptied a request that holds a track closes it with its next step and fails. -/
theorem Sound.step_enlisting (hx : x.Sound) (hspent : x.session.Spent)
    (hi : x.calls[i]? = some (.obtaining name (.enlisting h))) :
    (x.step (.attend i (.cue .go))).calls[i]? = some (.tracked name (.error .roomClosed)) ∧
      (x.step (.attend i (.cue .go))).session.room.hasClosed h = true := by
  have hstep : (Call.obtaining name (.enlisting h)).step x.session (.cue .go) =
      some (.tracked name (.error .roomClosed), x.session.closeHandle h) := by
    simp [Call.step, Obtain.step, enlist, hspent.closed, Call.obtained]
  have heq : x.step (.attend i (.cue .go)) =
      ⟨x.session.closeHandle h, x.calls.set i (.tracked name (.error .roomClosed))⟩ := by
    show x.attend i (.cue .go) = _
    simp only [attend, hi, hstep]
  have hmem : h ∈ x.hands := List.mem_flatMap.2 ⟨_, List.mem_of_getElem? hi, List.mem_singleton.2 rfl⟩
  rw [heq]
  refine ⟨List.getElem?_set_self (List.getElem?_eq_some_iff.1 hi).1, ?_⟩
  exact Room.hasClosed_closeTrack_self (hx.answered.isOpen h (List.mem_append_right _ hmem))

/-- **No published track leaks.** A track that the room created is on the map, or closed, or in the hands of a call.
Requests for a name return one track while nobody takes it off the map. Once a call has emptied the map, none returns
any more. -/
theorem no_track_leaks (config : Config) (id : String) (acts : List Act) {x : Traffic}
    (hx : (new config id).run acts = x) :
    (∀ h < x.session.room.tracks.length,
      h ∈ x.session.tracks.map Prod.snd ∨ x.session.room.hasClosed h = true ∨ ∃ c ∈ x.calls, h ∈ c.hands) ∧
    (∀ h ∈ x.session.tracks.map Prod.snd, ∀ before, before <+: acts →
      ((new config id).run before).session.room.hasClosed h = false) ∧
    (∀ more name, x.spared name more = true →
      (∀ i j h k, x.returned? i = none → (x.run more).returned? i = some (name, .ok h) →
        x.returned? j = none → (x.run more).returned? j = some (name, .ok k) → h = k) ∧
      ∀ i cause, x.returned? i = none → (x.run more).returned? i = some (name, .error cause) →
        .attend i (.cue (.published (.error cause))) ∈ more ∨
          cause = .roomClosed ∧ (x.run more).session.closed = true) ∧
    ((∃ c ∈ x.calls, c.drained = true) → ∀ more,
      (x.run more).session.tracks = [] ∧
      (∀ i name h, (x.run more).calls[i]? = some (.obtaining name (.enlisting h)) →
        (((x.run more).step (.attend i (.cue .go))).calls[i]? = some (.tracked name (.error .roomClosed)) ∧
          ((x.run more).step (.attend i (.cue .go))).session.room.hasClosed h = true)) ∧
      ∀ i name result, x.returned? i = none → (x.run more).returned? i = some (name, result) →
        result = .error .roomClosed ∨
          ∃ cause, result = .error cause ∧ .attend i (.cue (.published (.error cause))) ∈ more) := by
  have hsound : x.Sound := hx ▸ (Sound.new config id).run acts
  refine ⟨?_, ?_, ?_, ?_⟩
  · intro h hlt
    rcases Room.hasClosed_or_open hlt with hclosed | hopen
    · exact .inr (.inl hclosed)
    · rcases List.mem_append.1 (hsound.answered.answered h hopen) with hmem | hmem
      · exact .inl hmem
      · exact .inr (.inr (List.mem_flatMap.1 hmem))
  · intro h hmem before hp
    obtain ⟨rest, rfl⟩ := hp
    rw [run_append] at hx
    refine Bool.eq_false_of_not_eq_true fun hclosed => ?_
    have hclosed' : x.session.room.hasClosed h = true := by
      rw [← hx]
      exact run_of_transition (P := (·.room.hasClosed h = true)) Call.Transition.hasClosed hclosed rest
    exact hsound.answered.notMem_of_closed hclosed' hmem
  · intro more name hspared
    refine ⟨?_, ?_⟩
    · intro i j h k hi hi' hj hj'
      have hh := mem_tracks_of_run hi hi' hspared
      have hk := mem_tracks_of_run hj hj' hspared
      have hnames := (hsound.run more).answered.names
      exact Option.some.inj ((lookup_of_mem hnames hh).symm.trans (lookup_of_mem hnames hk))
    · intro i cause hi hi'
      exact error_of_run hi hi'
  · rintro ⟨c, hmem, hc⟩ more
    have hspent : ∀ acts, (x.run acts).session.Spent :=
      run_of_transition Call.Transition.spent (hsound.spent c hmem hc)
    refine ⟨(hspent more).tracks, ?_, ?_⟩
    · intro i name h hi
      exact (hsound.run more).step_enlisting (hspent more) hi
    · intro i name result hi hi'
      obtain ⟨before, a, behind, rfl, hbefore, ha⟩ := exists_return hi hi'
      obtain ⟨h, rfl, hmem'⟩ | ⟨cause, rfl, rfl⟩ | ⟨rfl, -⟩ := result_of_step hbefore ha
      · have hnil := (hspent (before ++ [a])).tracks
        rw [run_append] at hnil
        cases hnil.symm ▸ hmem'
      · exact .inr ⟨cause, rfl, by simp⟩
      · exact .inl rfl

/-- Two requests for one name, each of which has found no track and asks the room. -/
def racing : List Act := [.track "", .track "speaker"] ++ [0, 0, 1, 1].map (.attend · (.cue .go))

/-- The room creates a track for each of them. -/
def published : List Act := [0, 1].map (.attend · (.cue (.published (.ok ()))))

/-- The session is closed while somebody waits, up to the step that empties the map. -/
def closedAmid : List Act := .close :: [2, 2, 2].map (.attend · (.cue .go))

/-- Two requests that race return one track, whichever is enlisted first, and where the session is closed while they
wait for the room, each fails and closes its own. -/
theorem no_track_leaks_of_race :
    (∃ h k, ((new .terse "room").run (racing ++ published ++ [1, 0].map (.attend · (.cue .go)))).returned? 0 =
        some ("speaker", .ok h) ∧
      ((new .terse "room").run (racing ++ published ++ [1, 0].map (.attend · (.cue .go)))).returned? 1 =
        some ("speaker", .ok k) ∧ h = k) ∧
    (((new .terse "room").run (racing ++ closedAmid ++ published)).step (.attend 0 (.cue .go))).calls[0]? =
      some (.tracked "" (.error .roomClosed)) ∧
    (((new .terse "room").run (racing ++ closedAmid ++ published)).step
      (.attend 0 (.cue .go))).session.room.hasClosed 0 = true := by
  refine ⟨⟨1, 1, rfl, rfl, ?_⟩, ?_⟩
  · obtain ⟨-, -, hrace, -⟩ := no_track_leaks .terse "room" racing rfl
    exact (hrace (published ++ [1, 0].map (.attend · (.cue .go))) "speaker" (by decide)).1 0 1 1 1 rfl rfl rfl rfl
  · obtain ⟨-, -, -, hspent⟩ := no_track_leaks .terse "room" (racing ++ closedAmid) rfl
    exact (hspent ⟨.muting [], List.mem_of_getElem? (i := 2) rfl, rfl⟩ published).2.1 0 "" 0 rfl

end Traffic

end Playout.Session
