import Mathlib
import Playout.Rehearsal.Surface

/-!
# Which session a path names

A path is taken apart at its slashes and nothing in it is decoded, so the id that it names is what stands between
`sessions` and the next slash (`Names`). No route does anything with another id (`names_of_route`). The way back is open
for the ids that hold no slash: their session is stopped under `/sessions/{id}/stop`, and unless the id is empty it is
closed under `/sessions/{id}` (`sessions_are_addressed`). A session may be opened under any other id as well, and then
no path names it.
-/

namespace Playout.Control

open Rehearsal

variable {cs : List Char} {parts rest : List String} {path id method : String}

/-! ## Taking paths apart -/

theorem splitSlashes_ne_nil (cs : List Char) : splitSlashes cs ≠ [] := by
  cases cs with
  | nil => exact List.cons_ne_nil _ _
  | cons c cs =>
    rw [splitSlashes, List.foldr_cons]
    split
    · exact List.cons_ne_nil _ _
    · split <;> exact List.cons_ne_nil _ _

theorem splitSlashes_cons (c : Char) (cs : List Char) :
    splitSlashes (c :: cs) = if c = '/' then [] :: splitSlashes cs else (splitSlashes cs).modifyHead (c :: ·) := by
  rw [splitSlashes, List.foldr_cons, ← splitSlashes]
  cases h : splitSlashes cs with
  | nil => exact absurd h (splitSlashes_ne_nil cs)
  | cons part rest => rfl

theorem splitSlashes_eq (cs : List Char) : splitSlashes cs = cs.splitOn '/' := by
  induction cs with
  | nil => rfl
  | cons c cs ih =>
    rw [splitSlashes_cons, ih, List.splitOn_cons_eq_if_modifyHead]
    simp only [beq_iff_eq]

theorem not_mem_of_mem_splitSlashes {part : List Char} (h : part ∈ splitSlashes cs) : '/' ∉ part := by
  induction cs generalizing part with
  | nil =>
    rw [List.mem_singleton.1 h]
    exact List.not_mem_nil
  | cons c cs ih =>
    rw [splitSlashes_cons] at h
    by_cases hc : c = '/'
    · rw [if_pos hc] at h
      rcases List.mem_cons.1 h with rfl | h
      · exact List.not_mem_nil
      · exact ih h
    · rw [if_neg hc] at h
      cases hparts : splitSlashes cs with
      | nil => simp [hparts] at h
      | cons first rest =>
        rw [hparts, List.modifyHead_cons] at h
        rcases List.mem_cons.1 h with rfl | h
        · exact List.not_mem_cons_of_ne_of_not_mem (Ne.symm hc) (ih (hparts ▸ List.mem_cons_self))
        · exact ih (hparts ▸ List.mem_cons_of_mem _ h)

theorem trimSlashes_eq (cs : List Char) : trimSlashes cs = (cs.dropWhile (· = '/')).rdropWhile (· = '/') := rfl

theorem exists_trimmed (cs : List Char) : ∃ (before : Nat) (behind : List Char),
    cs = List.replicate before '/' ++ (trimSlashes cs ++ behind) ∧ ∀ c ∈ behind, c = '/' := by
  have hbefore : cs.takeWhile (· = '/') = List.replicate (cs.takeWhile (· = '/')).length '/' := by
    refine List.eq_replicate_of_mem fun c hmem => ?_
    simpa using List.mem_takeWhile_imp hmem
  refine ⟨(cs.takeWhile (· = '/')).length, (cs.dropWhile (· = '/')).rtakeWhile (· = '/'), ?_, ?_⟩
  · rw [← hbefore, trimSlashes_eq, List.rdropWhile_append_rtakeWhile, List.takeWhile_append_dropWhile]
  · intro c hmem
    simpa using List.mem_rtakeWhile_imp hmem

theorem getLast?_trimSlashes (cs : List Char) : (trimSlashes cs).getLast? ≠ some '/' := by
  intro h
  obtain ⟨hne, hlast⟩ := List.mem_getLast?_eq_getLast h
  exact List.rdropWhile_last_not _ _ hne (decide_eq_true hlast.symm)

theorem trimSlashes_slash_cons (hhead : cs.head? ≠ some '/') (hlast : cs.getLast? ≠ some '/') :
    trimSlashes ('/' :: cs) = cs := by
  have hfront : ('/' :: cs).dropWhile (· = '/') = cs := by
    rw [List.dropWhile_cons_of_pos (by rfl), List.dropWhile_eq_self_iff]
    intro hpos hslash
    exact hhead (List.head?_eq_getElem?.trans (by simpa [hpos] using hslash))
  rw [trimSlashes_eq, hfront, List.rdropWhile_eq_self_iff]
  intro hne hslash
  exact hlast ((List.getLast?_eq_some_getLast hne).trans (by simpa using hslash))

theorem intercalate_segments (path : String) :
    ['/'].intercalate ((segments path).map String.toList) = trimSlashes path.toList := by
  have hparts : (segments path).map String.toList = splitSlashes (trimSlashes path.toList) := by
    simp [segments, Function.comp_def]
  rw [hparts, splitSlashes_eq, List.intercalate_splitOn]

theorem not_mem_of_mem_segments {part : String} (h : part ∈ segments path) : '/' ∉ part.toList := by
  obtain ⟨cs, hmem, rfl⟩ := List.mem_map.1 h
  rw [String.toList_ofList]
  exact not_mem_of_mem_splitSlashes hmem

theorem segments_of_intercalate (hpath : path.toList = '/' :: ['/'].intercalate (parts.map String.toList))
    (hne : parts ≠ []) (hslash : ∀ part ∈ parts, '/' ∉ part.toList)
    (hhead : (['/'].intercalate (parts.map String.toList)).head? ≠ some '/')
    (hlast : (['/'].intercalate (parts.map String.toList)).getLast? ≠ some '/') : segments path = parts := by
  have hsplit : (['/'].intercalate (parts.map String.toList)).splitOn '/' = parts.map String.toList :=
    List.splitOn_intercalate '/' (by simpa using hslash) (by simpa using hne)
  rw [segments, hpath, trimSlashes_slash_cons hhead hlast, splitSlashes_eq, hsplit]
  simp [Function.comp_def]

theorem segments_close (hslash : '/' ∉ id.toList) (hne : id ≠ "") :
    segments ("/sessions/" ++ id) = ["sessions", id] := by
  have hparts : ['/'].intercalate (["sessions", id].map String.toList) = "sessions/".toList ++ id.toList := by simp
  refine segments_of_intercalate (by simp) (by simp) (by simpa using hslash) (by simp) ?_
  -- what is trimmed at the end would have to be part of the id
  rw [hparts, List.getLast?_append_of_ne_nil _ (by simpa using hne)]
  exact fun hlast => hslash (List.mem_of_getLast? hlast)

theorem segments_stop (hslash : '/' ∉ id.toList) :
    segments ("/sessions/" ++ id ++ "/stop") = ["sessions", id, "stop"] := by
  refine segments_of_intercalate (by simp) (by simp) (by simpa using hslash) (by simp) ?_
  simp [List.getLast?_append, List.getLast?_cons]

/-! ## Names -/

/-- The path has this id behind `sessions`, up to the next slash. -/
def Names (path id : String) : Prop :=
  ∃ (before : Nat) (behind : List Char),
    path.toList = List.replicate before '/' ++ ("sessions/".toList ++ (id.toList ++ behind)) ∧
      '/' ∉ id.toList ∧ ∀ c ∈ behind.head?, c = '/'

theorem names_of_segments (h : segments path = "sessions" :: id :: rest) : Names path id := by
  obtain ⟨before, behind, hpath, hbehind⟩ := exists_trimmed path.toList
  have hslash : '/' ∉ id.toList := not_mem_of_mem_segments (by rw [h]; simp)
  have htrimmed := intercalate_segments path
  rw [h] at htrimmed
  rw [← htrimmed] at hpath
  cases rest with
  | nil =>
    refine ⟨before, behind, by simpa using hpath, hslash, ?_⟩
    intro c hc
    exact hbehind c (List.mem_of_mem_head? hc)
  | cons part rest =>
    refine ⟨before, '/' :: (['/'].intercalate ((part :: rest).map String.toList) ++ behind), ?_, hslash, ?_⟩
    · simpa using hpath
    · intro c hc
      exact (Option.mem_some_iff.1 hc).symm

theorem Names.unique {id id' : String} (h : Names path id) (h' : Names path id') : id = id' := by
  -- both ids are what is left of the same path without the slashes in front and `sessions`, up to the next slash
  have hrest : ∀ {id : String}, Names path id → ∃ behind : List Char,
      path.toList.dropWhile (· = '/') = "sessions/".toList ++ (id.toList ++ behind) ∧
        (id.toList ++ behind).takeWhile (· ≠ '/') = id.toList := by
    rintro id ⟨before, behind, hpath, hslash, hbehind⟩
    refine ⟨behind, ?_, ?_⟩
    · rw [hpath, List.dropWhile_append_of_pos (by simp)]
      rfl
    · have hid : ∀ c ∈ id.toList, decide (c ≠ '/') = true := fun c hmem => decide_eq_true fun hc => hslash (hc ▸ hmem)
      have hend : behind.takeWhile (· ≠ '/') = [] := by
        cases behind with
        | nil => rfl
        | cons c behind => exact List.takeWhile_cons_of_neg (by simp [hbehind c rfl])
      rw [List.takeWhile_append_of_pos hid, hend, List.append_nil]
  obtain ⟨behind, hpath, hid⟩ := hrest h
  obtain ⟨behind', hpath', hid'⟩ := hrest h'
  rw [hpath, List.append_right_inj] at hpath'
  rw [← String.toList_inj, ← hid, ← hid', hpath']

/-- The id that a route does something with. -/
def Target.session? : Target → Option String
  | .health | .openSession => none
  | .closeSession id | .play id | .stop id | .push id _ | .roomAudio id => some id

theorem names_of_route {target : Target} (h : route method path = some target) (hid : target.session? = some id) :
    Names path id := by
  unfold route at h
  split at h <;> cases h <;> cases hid <;> exact names_of_segments ‹_›

theorem route_close (h : segments path = ["sessions", id]) : route "DELETE" path = some (.closeSession id) := by
  unfold route
  rw [h]
  rfl

theorem route_stop (h : segments path = ["sessions", id, "stop"]) : route "POST" path = some (.stop id) := by
  unfold route
  rw [h]
  rfl

/-- The last of several parts is not empty, so no path closes the session with the empty id. -/
theorem ne_empty_of_route_close (h : route method path = some (.closeSession id)) : id ≠ "" := by
  rintro rfl
  have hsegments : segments path = ["sessions", ""] := by
    unfold route at h
    split at h <;> cases h
    assumption
  have htrimmed := intercalate_segments path
  rw [hsegments] at htrimmed
  exact getLast?_trimSlashes path.toList (htrimmed ▸ rfl)

/-! ## What is done with the session -/

section

variable {w : World} {n : Nat} {s : Session} {body : Bytes} {stream : Option String}

theorem serve_open_of_error {order : OpenOrder} {reason : String} (horder : OpenOrder.read body = .ok order)
    (hsocket : (w.nextSocket order.remote).address = .error reason) :
    w.serve "POST" "/sessions" body stream =
      (.reply (.notJoined reason), { w with socketsWanted := w.socketsWanted + 1 }) := by
  have hroute : route "POST" "/sessions" = some .openSession := rfl
  simp only [World.serve, hroute, World.serveOpen, horder, hsocket]

theorem serve_open {order : OpenOrder} {address : String} (horder : OpenOrder.read body = .ok order)
    (hsocket : (w.nextSocket order.remote).address = .ok address)
    (hfree : w.service.registry.lookup order.sessionId = none) :
    ∃ w', w.serve "POST" "/sessions" body stream = (.reply (.opened order.sessionId address), w') ∧
      w'.service.registry = (order.sessionId, w.service.sessions.length) :: w.service.registry ∧
      w'.service.sessions = w.service.sessions ++ [.new w.service.config order.sessionId] := by
  have hroute : route "POST" "/sessions" = some .openSession := rfl
  simp only [World.serve, hroute, World.serveOpen, horder, hsocket, World.openSession, Service.openSession, hfree]
  exact ⟨_, rfl, rfl, rfl⟩

theorem serve_close (hpath : segments path = ["sessions", id]) (hid : w.service.registry.lookup id = some n) :
    let others := w.service.registry.filter (·.1 ≠ id)
    w.serve "DELETE" path body stream = (.reply .closed, { w with
      service := { w.service with
        registry := others
        sessions := w.service.sessions.modify n Session.close
        counters := { w.service.counters with sessions := others.length } } }) := by
  simp only [World.serve, route_close hpath, World.serveClose, Service.closeSession, Service.unregister, hid]
  rfl

theorem serve_stop (hpath : segments path = ["sessions", id, "stop"])
    (hid : w.service.registry.lookup id = some n) (hs : w.service.sessions[n]? = some s) :
    w.serve "POST" path body stream = (.reply (.stopped s.isPlaying), w.update n Session.preempt) := by
  simp only [World.serve, route_stop hpath, World.serveStop, Service.stop, Service.find, hid, hs]
  rfl

end

/-- **Sessions are addressed by their ids.** A session is opened under any free id if its room gets a socket. Without
slashes an id of admitted characters has a path that stops its session, and, unless empty, one that closes it. A route
concerns only the id that its path names. -/
theorem sessions_are_addressed (admits : Char → Prop) (hadmits : ∀ c ∈ "/sessions/stop".toList, admits c) :
    (∀ (w : World) (body : Bytes) (stream : Option String) (order : OpenOrder), OpenOrder.read body = .ok order →
      (∀ reason : String, (w.nextSocket order.remote).address = .error reason →
        w.serve "POST" "/sessions" body stream =
          (.reply (.notJoined reason), { w with socketsWanted := w.socketsWanted + 1 })) ∧
      ∀ address : String, (w.nextSocket order.remote).address = .ok address →
        w.service.registry.lookup order.sessionId = none →
          let n := w.service.sessions.length
          ∃ w', w.serve "POST" "/sessions" body stream = (.reply (.opened order.sessionId address), w') ∧
            w'.service.registry = (order.sessionId, n) :: w.service.registry ∧
            w'.service.sessions = w.service.sessions ++ [.new w.service.config order.sessionId]) ∧
    (∀ id : String, '/' ∉ id.toList → (∀ c ∈ id.toList, admits c) →
      (∃ path : String, (∀ c ∈ path.toList, admits c) ∧
        ∀ (w : World) (body : Bytes) (stream : Option String) (n : Nat) (s : Session),
          w.service.registry.lookup id = some n → w.service.sessions[n]? = some s →
            w.serve "POST" path body stream = (.reply (.stopped s.isPlaying), w.update n Session.preempt)) ∧
      (id ≠ "" → ∃ path : String, (∀ c ∈ path.toList, admits c) ∧
        ∀ (w : World) (body : Bytes) (stream : Option String) (n : Nat),
          w.service.registry.lookup id = some n →
            let others := w.service.registry.filter (·.1 ≠ id)
            w.serve "DELETE" path body stream = (.reply .closed, { w with
              service := { w.service with
                registry := others
                sessions := w.service.sessions.modify n Session.close
                counters := { w.service.counters with sessions := others.length } } }))) ∧
    (∀ (method path : String) (target : Target) (id : String), route method path = some target →
      target.session? = some id → '/' ∉ id.toList ∧ ∀ id', Names path id' ↔ id' = id) := by
  refine ⟨fun _ _ _ _ horder => ⟨fun _ => serve_open_of_error horder, fun _ => serve_open horder⟩, ?_, ?_⟩
  · intro id hslash hid
    have hclose : ∀ c ∈ ("/sessions/" ++ id).toList, admits c := by
      rw [String.toList_append]
      exact List.forall_mem_append.2 ⟨fun c hmem => hadmits c (List.mem_append_left _ hmem), hid⟩
    have hstop : ∀ c ∈ ("/sessions/" ++ id ++ "/stop").toList, admits c := by
      have hletters : "/stop".toList ⊆ "/sessions/stop".toList := by decide
      rw [String.toList_append]
      exact List.forall_mem_append.2 ⟨hclose, fun c hmem => hadmits c (hletters hmem)⟩
    refine ⟨⟨_, hstop, ?_⟩, fun hne => ⟨_, hclose, ?_⟩⟩
    · intro w body stream n s hn hs
      exact serve_stop (segments_stop hslash) hn hs
    · intro w body stream n hn
      exact serve_close (segments_close hslash hne) hn
  · intro method path target id hroute hid
    have hnames := names_of_route hroute hid
    obtain ⟨-, -, -, hslash, -⟩ := hnames
    refine ⟨hslash, fun id' => ⟨fun h => h.unique (names_of_route hroute hid), ?_⟩⟩
    rintro rfl
    exact names_of_route hroute hid

theorem sessions_are_addressed_of_room :
    let legible : Char → Bool := fun c => c.isAlphanum || c == '-' || c == '/'
    let body := "\x7b\"session_id\":\"room-7\",\"rtp_remote\":\"10.0.0.1:4000\"\x7d".toUTF8.data.toList
    let blank : World := { service := .new {}, link := .up }
    let w := (blank.serve "POST" "/sessions" body none).2
    w.service.registry = [("room-7", 0)] ∧
      (∃ path : String, (∀ c ∈ path.toList, legible c) ∧
        (w.serve "POST" path [] none).1 = .reply (.stopped false)) ∧
      (∃ path : String, (∀ c ∈ path.toList, legible c) ∧
        (w.serve "DELETE" path [] none).2.service.sessions = [(Session.new {} "room-7").close]) ∧
      ∀ id, Names "/sessions/room-7" id ↔ id = "room-7" := by
  intro legible body blank w
  obtain ⟨hopen, haddress, hnames⟩ := sessions_are_addressed (legible ·) (List.all_eq_true.1 (by decide +kernel))
  have horder : OpenOrder.read body = .ok ⟨"room-7", .ipv4 0x0a000001 4000⟩ := by decide +kernel
  obtain ⟨w', hserve, hregistry, hsessions⟩ :=
    (hopen blank body none _ horder).2 "0.0.0.0:40000" (by decide +kernel) rfl
  have hw : w = w' := congrArg Prod.snd hserve
  clear_value w
  subst hw
  obtain ⟨⟨stopping, hstopping, hstop⟩, hclosing⟩ :=
    haddress "room-7" (by decide) (List.all_eq_true.1 (by decide +kernel))
  obtain ⟨closing, hclosing, hclose⟩ := hclosing (by decide)
  have hlookup : w.service.registry.lookup "room-7" = some 0 := by rw [hregistry]; rfl
  refine ⟨hregistry, ⟨stopping, hstopping, ?_⟩, ⟨closing, hclosing, ?_⟩, ?_⟩
  · rw [hstop w [] none 0 (Session.new {} "room-7") hlookup (by rw [hsessions]; rfl)]
    rfl
  · rw [hclose w [] none 0 hlookup, hsessions]
    rfl
  · exact (hnames "DELETE" "/sessions/room-7" (.closeSession "room-7") "room-7" (by decide +kernel) rfl).2

/-- A session may be opened under an id that holds a slash, under the empty id, and under one with a space. Then no path
closes it: in the first two cases there is none, and a path with a space is none that a request could have. -/
theorem sessions_without_address :
    let body := "\x7b\"session_id\":\"a/b\",\"rtp_remote\":\"10.0.0.1:4000\"\x7d".toUTF8.data.toList
    let blank : World := { service := .new {}, link := .up }
    (blank.serve "POST" "/sessions" body none).1 = .reply (.opened "a/b" "0.0.0.0:40000") ∧
      (∀ path, route "DELETE" path ≠ some (.closeSession "a/b") ∧ route "POST" path ≠ some (.stop "a/b")) ∧
      (∀ path, route "DELETE" path ≠ some (.closeSession "")) ∧
      ∀ path, route "DELETE" path = some (.closeSession "a b") → ' ' ∈ path.toList := by
  intro body blank
  refine ⟨by decide +kernel, ?_, ?_, ?_⟩
  · have hslash : ∀ path, ¬Names path "a/b" := fun path ⟨_, _, _, hslash, _⟩ => hslash (by decide)
    exact fun path => ⟨fun h => hslash path (names_of_route h rfl), fun h => hslash path (names_of_route h rfl)⟩
  · exact fun path h => ne_empty_of_route_close h rfl
  · intro path h
    obtain ⟨before, behind, hpath, -, -⟩ := names_of_route h rfl
    rw [hpath]
    simp

end Playout.Control
