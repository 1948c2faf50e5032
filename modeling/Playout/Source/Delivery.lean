import Playout.Error
import Playout.Pcm.Sample

/-!
# Deliveries

The body of a source arrives piece by piece, and a piece may be a failure instead of bytes. A delivery is
what has arrived and is not yet read. A read takes from the piece at hand and never waits for a second one;
an empty piece is passed over, so that a read of nothing means the end. A failure is reported by one read,
and the pieces behind it are still handed out.
-/

namespace Playout.Source

/-- A read that did not succeed. An interrupted one may be tried again at once. -/
structure Fault where
  reason : String
  interrupted : Bool := false
deriving DecidableEq, Repr

/-- One piece of a delivery. -/
inductive Arrival where
  | chunk (bytes : Bytes)
  | fault (cause : Fault)
deriving DecidableEq, Repr

/-- The bytes of the piece at hand and the pieces behind it. -/
structure Delivery where
  current : Bytes
  queued : List Arrival
deriving DecidableEq, Repr

/-- The bytes of a piece and one for the piece itself. -/
def Arrival.size : Arrival → Nat
  | .chunk bytes => bytes.length + 1
  | .fault _ => 1

namespace Delivery

def ofArrivals (arrivals : List Arrival) : Delivery := ⟨[], arrivals⟩

/-- The bytes of the pieces and one for each piece. -/
def queuedSize : List Arrival → Nat
  | [] => 0
  | arrival :: rest => arrival.size + queuedSize rest

/-- What is left to read, in bytes and pieces. -/
def size (d : Delivery) : Nat := d.current.length + queuedSize d.queued

/-- Takes the next piece that is not empty. -/
def nextPiece : List Arrival → Except Fault Bytes × List Arrival
  | [] => (.ok [], [])
  | .chunk [] :: rest => nextPiece rest
  | .chunk (b :: bs) :: rest => (.ok (b :: bs), rest)
  | .fault cause :: rest => (.error cause, rest)

def read (d : Delivery) (n : Nat) : Except Fault Bytes × Delivery :=
  if n = 0 then (.ok [], d)
  else if d.current = [] then
    match nextPiece d.queued with
    | (.ok bytes, rest) => (.ok (bytes.take n), ⟨bytes.drop n, rest⟩)
    | (.error cause, rest) => (.error cause, ⟨[], rest⟩)
  else (.ok (d.current.take n), ⟨d.current.drop n, d.queued⟩)

/-! ## Every read makes progress -/

theorem nextPiece_size (arrivals : List Arrival) :
    match nextPiece arrivals with
    | (.ok [], rest) => rest = []
    | (.ok (b :: bs), rest) =>
      (b :: bs).length + queuedSize rest < queuedSize arrivals
    | (.error _, rest) => queuedSize rest < queuedSize arrivals := by
  fun_induction nextPiece arrivals with
  | case1 => rfl
  | case2 rest ih =>
    revert ih
    split <;> simp_all [queuedSize, Arrival.size] <;> omega
  | case3 b bs rest => simp [queuedSize, Arrival.size]
  | case4 cause rest => simp [queuedSize, Arrival.size]

theorem read_ok_size {d d' : Delivery} {n : Nat} {bytes : Bytes} (h : d.read n = (.ok bytes, d')) :
    bytes.length + d'.size ≤ d.size := by
  have hp := nextPiece_size d.queued
  unfold read at h
  split at h
  · cases h; simp
  · split at h
    · rename_i hc
      split at h
      · rename_i got rest hr
        cases h
        rw [hr] at hp
        cases got with
        | nil => simp_all [size, queuedSize]
        | cons b bs =>
          simp only [size, hc, List.length_take, List.length_drop, List.length_nil] at *
          omega
      · cases h
    · cases h
      simp only [size, List.length_take, List.length_drop]
      omega

theorem read_error_size {d d' : Delivery} {n : Nat} {cause : Fault}
    (h : d.read n = (.error cause, d')) : d'.size < d.size := by
  have hp := nextPiece_size d.queued
  unfold read at h
  split at h
  · cases h
  · split at h
    · rename_i hc
      split at h
      · cases h
      · rename_i got rest hr
        cases h
        rw [hr] at hp
        simp only [size, hc, List.length_nil] at *
        omega
    · cases h

/-! ## Reading in full -/

/-- Reads until there are `n` bytes or the delivery ends. Interrupted reads are tried again; any other
failure ends the attempt, and the bytes it had are lost. -/
def readFull (d : Delivery) (n : Nat) : Except Fault Bytes × Delivery :=
  if n = 0 then (.ok [], d)
  else
    match _h : d.read n with
    | (.ok [], d') => (.ok [], d')
    | (.ok (b :: bs), d') =>
      match readFull d' (n - (b :: bs).length) with
      | (.ok more, d'') => (.ok (b :: bs ++ more), d'')
      | (.error cause, d'') => (.error cause, d'')
    | (.error cause, d') => if cause.interrupted then readFull d' n else (.error cause, d')
termination_by d.size
decreasing_by
  · have := read_ok_size _h
    simp only [List.length_cons] at this
    omega
  · exact read_error_size _h

theorem readFull_size (d : Delivery) (n : Nat) :
    match d.readFull n with
    | (.ok bytes, d') => bytes.length + d'.size ≤ d.size
    | (.error _, d') => d'.size ≤ d.size := by
  fun_induction readFull d n with
  | case1 => simp
  | case2 d n hn d' h =>
    have := read_ok_size h
    simpa using this
  | case3 d n hn b bs d' h more d'' hm ih =>
    have := read_ok_size h
    rw [hm] at ih
    simp only [List.length_append, List.length_cons] at *
    omega
  | case4 d n hn b bs d' h cause d'' hm ih =>
    have := read_ok_size h
    rw [hm] at ih
    simp only [List.length_cons] at *
    omega
  | case5 d n hn cause d' h hi ih =>
    have := read_error_size h
    revert ih
    split <;> intro ih <;> omega
  | case6 d n hn cause d' h hi =>
    have := read_error_size h
    simp only
    omega

/-! ## Putting bytes back -/

/-- Puts bytes back in front of what is left. -/
def unread (d : Delivery) (bytes : Bytes) : Delivery := ⟨bytes ++ d.current, d.queued⟩

@[simp] theorem unread_size (d : Delivery) (bytes : Bytes) :
    (d.unread bytes).size = bytes.length + d.size := by
  simp only [unread, size, List.length_append]
  omega

end Delivery

end Playout.Source
