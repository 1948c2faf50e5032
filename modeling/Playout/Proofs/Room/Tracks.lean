import Mathlib
import Playout.Room.Basic

/-!
# What a room keeps of its tracks

Each of the operations of a room changes one thing: creating adds an open track without frames, closing closes
one track, accepting a frame adds it to one track. A track that exists and is closed stays closed
(`Room.hasClosed`).
-/

namespace Playout.Room

variable {r : Room} {h k : Handle}

/-- A track was created and is closed. -/
def hasClosed (r : Room) (h : Handle) : Bool := (r.tracks[h]?.map (·.closed)).getD false

theorem isClosed_of_hasClosed (hc : r.hasClosed h = true) : r.isClosed h = true := by
  unfold hasClosed at hc
  unfold isClosed
  cases hk : r.tracks[h]? with
  | none => rfl
  | some t => simpa [hk] using hc

theorem hasClosed_or_open (hlt : h < r.tracks.length) : r.hasClosed h = true ∨ r.isClosed h = false := by
  unfold hasClosed isClosed
  rw [List.getElem?_eq_getElem hlt]
  cases r.tracks[h].closed <;> simp

theorem lt_length_of_open (ho : r.isClosed h = false) : h < r.tracks.length := by
  by_contra hge
  rw [isClosed, List.getElem?_eq_none (Nat.le_of_not_lt hge)] at ho
  simp at ho

/-! ## Creating -/

theorem isClosed_create_self (r : Room) (name : String) : (r.create name).2.isClosed (r.create name).1 = false := by
  simp [create, isClosed]

theorem isClosed_create_of_open (name : String) (ho : r.isClosed h = false) :
    (r.create name).2.isClosed h = false := by
  rw [← ho, isClosed, isClosed, create, List.getElem?_append_left (lt_length_of_open ho)]

theorem eq_or_open_of_create {name : String} (ho : (r.create name).2.isClosed h = false) :
    h = (r.create name).1 ∨ r.isClosed h = false := by
  rcases Nat.lt_trichotomy h r.tracks.length with hlt | heq | hgt
  · right
    rwa [isClosed, create, List.getElem?_append_left hlt] at ho
  · exact .inl heq
  · have hlt : h < r.tracks.length + 1 := by simpa [create] using lt_length_of_open ho
    exact absurd (Nat.lt_succ_iff.1 hlt) (Nat.not_le_of_gt hgt)

theorem hasClosed_create (name : String) (hc : r.hasClosed h = true) : (r.create name).2.hasClosed h = true := by
  unfold hasClosed at hc ⊢
  have hlt : h < r.tracks.length := by
    by_contra hge
    simp [List.getElem?_eq_none (Nat.le_of_not_lt hge)] at hc
  rw [create, List.getElem?_append_left hlt, hc]

@[simp] theorem framesOf_create (r : Room) (name : String) (h : Handle) :
    (r.create name).2.framesOf h = r.framesOf h := by
  unfold framesOf create
  rcases Nat.lt_trichotomy h r.tracks.length with hlt | rfl | hgt
  · rw [List.getElem?_append_left hlt]
  · simp
  · rw [List.getElem?_eq_none (by simp; omega), List.getElem?_eq_none (by omega)]

/-! ## Closing -/

theorem isClosed_closeTrack (r : Room) (k h : Handle) :
    (r.closeTrack k).isClosed h = (decide (k = h) || r.isClosed h) := by
  unfold isClosed closeTrack update
  rw [List.getElem?_modify]
  cases r.tracks[h]? with
  | none => simp
  | some t => by_cases hk : k = h <;> simp [hk]

theorem hasClosed_closeTrack (k : Handle) (hc : r.hasClosed h = true) : (r.closeTrack k).hasClosed h = true := by
  unfold hasClosed at hc ⊢
  unfold closeTrack update
  rw [List.getElem?_modify]
  cases hh : r.tracks[h]? with
  | none => simp [hh] at hc
  | some t => by_cases hk : k = h <;> simp_all

theorem hasClosed_closeTrack_self (ho : r.isClosed h = false) : (r.closeTrack h).hasClosed h = true := by
  simp [hasClosed, closeTrack, update, lt_length_of_open ho]

@[simp] theorem framesOf_closeTrack (r : Room) (k h : Handle) : (r.closeTrack k).framesOf h = r.framesOf h := by
  unfold framesOf closeTrack update
  rw [List.getElem?_modify]
  cases r.tracks[h]? with
  | none => rfl
  | some t => by_cases hk : k = h <;> simp [hk]

/-! ## Accepting a frame -/

@[simp] theorem isClosed_record (r : Room) (k h : Handle) (frame : Frame) :
    (r.record k frame).isClosed h = r.isClosed h := by
  unfold isClosed record update
  rw [List.getElem?_modify]
  cases r.tracks[h]? with
  | none => rfl
  | some t => by_cases hk : k = h <;> simp [hk]

@[simp] theorem hasClosed_record (r : Room) (k h : Handle) (frame : Frame) :
    (r.record k frame).hasClosed h = r.hasClosed h := by
  unfold hasClosed record update
  rw [List.getElem?_modify]
  cases r.tracks[h]? with
  | none => rfl
  | some t => by_cases hk : k = h <;> simp [hk]

theorem framesOf_record (frame : Frame) (ho : r.isClosed k = false) (h : Handle) :
    (r.record k frame).framesOf h = r.framesOf h ++ (if k = h then [frame] else []) := by
  have hlt := lt_length_of_open ho
  unfold framesOf record update
  by_cases hk : k = h
  · subst hk
    simp [hlt]
  · simp [hk]

/-! ## Leaving -/

@[simp] theorem framesOf_disconnect (r : Room) (h : Handle) : r.disconnect.framesOf h = r.framesOf h := rfl

end Playout.Room
