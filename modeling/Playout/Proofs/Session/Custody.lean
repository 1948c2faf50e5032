import Mathlib
import Playout.Proofs.Room.Tracks
import Playout.Proofs.Session.Slots
import Playout.Session.Tracks

/-!
# Who answers for an open track

A track that a room created is answered for by one party until it is closed: by the map, once it is enlisted,
before that by whoever has just had it created, and by whoever took it off the map to close it. `Handling` says
how tracks pass from one to the other, and `Custody` what stays true of that: nobody answers for a track that
somebody else answers for, and every track that is answered for is open. So a closed track is on no map. Where no
track has been lost, every open track is answered for (`Answered`).
-/

namespace Playout.Session

/-- Tracks pass between the map of a session and a party: those in hand before and after. -/
inductive Handling (s : Session) : List Handle → Session → List Handle → Prop
  | keep {s' : Session} {hands : List Handle} (htracks : s'.tracks = s.tracks)
      (hopen : ∀ h, s'.room.isClosed h = s.room.isClosed h)
      (hclosed : ∀ h, s'.room.hasClosed h = s.room.hasClosed h) : Handling s hands s' hands
  | create {s' : Session} {name : String} (htracks : s'.tracks = s.tracks)
      (hroom : s'.room = (s.room.create name).2) : Handling s [] s' [(s.room.create name).1]
  | enlist {s' : Session} {name : String} {h : Handle} (hnone : s.tracks.lookup name = none)
      (htracks : s'.tracks = (name, h) :: s.tracks) (hroom : s'.room = s.room) : Handling s [h] s' []
  | unlist {s' : Session} {name : String} {h : Handle} (hsome : s.tracks.lookup name = some h)
      (htracks : s'.tracks = s.tracks.filter (·.1 ≠ name)) (hroom : s'.room = s.room) : Handling s [] s' [h]
  | empty {s' : Session} (htracks : s'.tracks = []) (hroom : s'.room = s.room) :
      Handling s [] s' (s.tracks.map Prod.snd)
  | close {s' : Session} {h : Handle} (htracks : s'.tracks = s.tracks)
      (hroom : s'.room = s.room.closeTrack h) : Handling s [h] s' []

/-- The tracks on the map and those in hand elsewhere are different ones, and all of them are open. -/
structure Custody (s : Session) (hands : List Handle) : Prop where
  names : (s.tracks.map Prod.fst).Nodup
  handles : (s.tracks.map Prod.snd ++ hands).Nodup
  isOpen : ∀ h ∈ s.tracks.map Prod.snd ++ hands, s.room.isClosed h = false

/-- Custody of every open track there is. -/
structure Answered (s : Session) (hands : List Handle) : Prop extends Custody s hands where
  answered : ∀ h, s.room.isClosed h = false → h ∈ s.tracks.map Prod.snd ++ hands

/-! ## The map -/

section Map

variable {tracks : List (String × Handle)} {name : String} {h : Handle}

theorem mem_of_lookup (hl : tracks.lookup name = some h) : (name, h) ∈ tracks := by
  obtain ⟨before, behind, rfl, -⟩ := List.lookup_eq_some_iff.1 hl
  simp

theorem lookup_of_mem (hn : (tracks.map Prod.fst).Nodup) (hmem : (name, h) ∈ tracks) :
    tracks.lookup name = some h := by
  cases hl : tracks.lookup name with
  | none =>
    rw [List.lookup_eq_none_iff] at hl
    simpa using hl _ hmem
  | some k =>
    have hk := List.inj_on_of_nodup_map hn (mem_of_lookup hl) hmem rfl
    exact congrArg some (Prod.ext_iff.1 hk).2

theorem notMem_names_of_lookup (hl : tracks.lookup name = none) : name ∉ tracks.map Prod.fst := by
  rw [List.lookup_eq_none_iff] at hl
  intro hmem
  obtain ⟨entry, hentry, rfl⟩ := List.mem_map.1 hmem
  simpa using hl entry hentry

theorem filter_of_lookup (hn : (tracks.map Prod.fst).Nodup) (hl : tracks.lookup name = some h) :
    ∃ before behind, tracks = before ++ (name, h) :: behind ∧
      tracks.filter (·.1 ≠ name) = before ++ behind := by
  obtain ⟨before, behind, rfl, -⟩ := List.lookup_eq_some_iff.1 hl
  refine ⟨before, behind, rfl, ?_⟩
  rw [List.map_append, List.map_cons, List.nodup_middle, List.nodup_cons, ← List.map_append] at hn
  have hother : ∀ entry ∈ before ++ behind, entry.1 ≠ name := by
    rintro entry hentry rfl
    exact hn.1 (List.mem_map.2 ⟨entry, hentry, rfl⟩)
  have hkeep : (before ++ behind).filter (·.1 ≠ name) = before ++ behind := by
    rw [List.filter_eq_self]
    intro entry hentry
    simpa using hother entry hentry
  simpa using hkeep

theorem filter_of_lookup_none (hl : tracks.lookup name = none) : tracks.filter (·.1 ≠ name) = tracks := by
  rw [List.filter_eq_self]
  intro entry hentry
  have hne : entry.1 ≠ name := by
    intro heq
    exact notMem_names_of_lookup hl (heq ▸ List.mem_map_of_mem hentry)
  simpa using hne

end Map

/-! ## What is true of custody -/

variable {s s' : Session} {hands hands' rest : List Handle} {h : Handle}

theorem Custody.new (config : Config) (id : String) : (Session.new config id).Custody [] where
  names := List.nodup_nil
  handles := List.nodup_nil
  isOpen := by simp [Session.new]

theorem Custody.perm (hc : s.Custody hands) (hp : hands.Perm hands') : s.Custody hands' where
  names := hc.names
  handles := (List.Perm.append_left _ hp).nodup_iff.1 hc.handles
  isOpen h hmem := hc.isOpen h ((List.Perm.append_left _ hp).mem_iff.2 hmem)

theorem Custody.of_same (hc : s.Custody hands) (htracks : s'.tracks = s.tracks) (hroom : s'.room = s.room) :
    s'.Custody hands where
  names := by rw [htracks]; exact hc.names
  handles := by rw [htracks]; exact hc.handles
  isOpen := by rw [htracks, hroom]; exact hc.isOpen

theorem Custody.notMem_of_closed (hc : s.Custody hands) (hclosed : s.room.hasClosed h = true) :
    h ∉ s.tracks.map Prod.snd := by
  intro hmem
  have hopen := hc.isOpen h (List.mem_append_left _ hmem)
  rw [Room.isClosed_of_hasClosed hclosed] at hopen
  cases hopen

theorem Custody.handling (hc : s.Custody (hands ++ rest)) (hh : Handling s hands s' hands') :
    s'.Custody (hands' ++ rest) := by
  obtain ⟨hnames, hhandles, hopen⟩ := hc
  cases hh with
  | keep htracks ho _ =>
    refine ⟨by rwa [htracks], by rwa [htracks], ?_⟩
    intro h hmem
    rw [htracks] at hmem
    rw [ho, hopen h hmem]
  | @create _ name htracks hroom =>
    rw [List.nil_append] at hhandles hopen
    have hfresh : (s.room.create name).1 ∉ s.tracks.map Prod.snd ++ rest := by
      intro hmem
      exact (Room.lt_length_of_open (hopen _ hmem)).ne rfl
    refine ⟨by rwa [htracks], ?_, ?_⟩
    · rw [htracks, List.singleton_append, List.nodup_middle]
      exact List.nodup_cons.2 ⟨hfresh, hhandles⟩
    · intro h hmem
      rw [htracks, List.singleton_append, List.perm_middle.mem_iff, List.mem_cons] at hmem
      rw [hroom]
      rcases hmem with rfl | hmem
      · exact s.room.isClosed_create_self name
      · exact Room.isClosed_create_of_open name (hopen h hmem)
  | @enlist _ name h hnone htracks hroom =>
    refine ⟨?_, ?_, ?_⟩
    · rw [htracks, List.map_cons, List.nodup_cons]
      exact ⟨notMem_names_of_lookup hnone, hnames⟩
    · rw [htracks, List.nil_append, List.map_cons, List.cons_append, ← List.nodup_middle]
      exact hhandles
    · intro k hmem
      rw [htracks, List.nil_append, List.map_cons, List.cons_append, ← List.perm_middle.mem_iff] at hmem
      rw [hroom]
      exact hopen k hmem
  | @unlist _ name h hsome htracks hroom =>
    obtain ⟨before, behind, heq, hfilter⟩ := filter_of_lookup hnames hsome
    have hp : (s'.tracks.map Prod.snd ++ ([h] ++ rest)).Perm (s.tracks.map Prod.snd ++ ([] ++ rest)) := by
      rw [htracks, hfilter, heq]
      simp only [List.map_append, List.map_cons, List.append_assoc, List.cons_append, List.nil_append]
      exact List.Perm.append_left _ List.perm_middle
    refine ⟨?_, hp.nodup_iff.2 hhandles, ?_⟩
    · rw [htracks]
      exact hnames.sublist (List.filter_sublist.map _)
    · intro k hmem
      rw [hroom]
      exact hopen k (hp.mem_iff.1 hmem)
  | empty htracks hroom =>
    refine ⟨?_, ?_, ?_⟩
    · rw [htracks]
      exact List.nodup_nil
    · rwa [htracks]
    · rw [htracks, hroom]
      exact hopen
  | @close _ h htracks hroom =>
    rw [List.singleton_append, List.nodup_middle, List.nodup_cons] at hhandles
    obtain ⟨hnot, hrest⟩ := hhandles
    refine ⟨by rwa [htracks], by rwa [htracks], ?_⟩
    intro k hmem
    rw [htracks] at hmem
    have hne : h ≠ k := by
      rintro rfl
      exact hnot hmem
    have hk : k ∈ s.tracks.map Prod.snd ++ ([h] ++ rest) := by
      rw [List.singleton_append, List.perm_middle.mem_iff]
      exact List.mem_cons_of_mem _ hmem
    rw [hroom, Room.isClosed_closeTrack, hopen k hk]
    simpa using hne

theorem Answered.new (config : Config) (id : String) : (Session.new config id).Answered [] where
  toCustody := .new config id
  answered h hopen := by simp [Session.new, Room.isClosed] at hopen

theorem Answered.perm (ha : s.Answered hands) (hp : hands.Perm hands') : s.Answered hands' where
  toCustody := ha.toCustody.perm hp
  answered h hopen := (List.Perm.append_left _ hp).mem_iff.1 (ha.answered h hopen)

theorem Answered.handling (ha : s.Answered (hands ++ rest)) (hh : Handling s hands s' hands') :
    s'.Answered (hands' ++ rest) := by
  refine ⟨ha.toCustody.handling hh, ?_⟩
  intro k hopen
  cases hh with
  | keep htracks ho _ =>
    rw [htracks]
    exact ha.answered k (ho k ▸ hopen)
  | @create _ name htracks hroom =>
    rw [hroom] at hopen
    rw [htracks, List.singleton_append, List.perm_middle.mem_iff, List.mem_cons]
    exact (Room.eq_or_open_of_create hopen).imp_right (ha.answered k)
  | @enlist _ name h hnone htracks hroom =>
    rw [hroom] at hopen
    rw [htracks, List.nil_append, List.map_cons, List.cons_append, ← List.perm_middle.mem_iff]
    exact ha.answered k hopen
  | @unlist _ name h hsome htracks hroom =>
    obtain ⟨before, behind, heq, hfilter⟩ := filter_of_lookup ha.names hsome
    rw [hroom] at hopen
    have hmem := ha.answered k hopen
    rw [heq] at hmem
    rw [htracks, hfilter]
    simp only [List.map_append, List.map_cons, List.append_assoc, List.cons_append, List.nil_append] at hmem ⊢
    exact (List.Perm.append_left _ List.perm_middle).mem_iff.2 hmem
  | empty htracks hroom =>
    rw [htracks]
    exact ha.answered k (hroom ▸ hopen)
  | @close _ h htracks hroom =>
    rw [hroom, Room.isClosed_closeTrack, Bool.or_eq_false_iff, decide_eq_false_iff_not] at hopen
    have hmem := ha.answered k hopen.2
    rw [List.singleton_append, List.perm_middle.mem_iff, List.mem_cons] at hmem
    rw [htracks]
    exact hmem.resolve_left (Ne.symm hopen.1)

/-- A closed track stays closed, whoever answers for it. -/
theorem Handling.hasClosed (hh : Handling s hands s' hands') (hc : s.room.hasClosed h = true) :
    s'.room.hasClosed h = true := by
  cases hh with
  | keep _ _ hclosed => rw [hclosed, hc]
  | create _ hroom => rw [hroom, Room.hasClosed_create _ hc]
  | enlist _ _ hroom | unlist _ _ hroom | empty _ hroom => rwa [hroom]
  | close _ hroom => rw [hroom, Room.hasClosed_closeTrack _ hc]

end Playout.Session
