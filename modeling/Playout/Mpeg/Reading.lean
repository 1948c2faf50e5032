import Playout.Source.Delivery

/-!
# Reading an MPEG audio stream

A stream is read byte by byte, or so many bytes at once. Either attempt can find the end of the delivery or a
fault in place of bytes. Main statements: what was read is gone from the delivery (`readByte_size`,
`readExact_size`, `takeBytes_size`).
-/

namespace Playout.Mpeg

open Source

/-- Why there is nothing more to read. -/
inductive Stop where
  | ended
  | fault (cause : Fault)
deriving DecidableEq, Repr

/-- What the failure to read on means for the playback. -/
def Stop.inHeader : Stop → PlaybackError
  | .ended => .format (.truncated "MPEG header")
  | .fault cause => .transport cause.reason

def readByte (d : Delivery) : Except Stop UInt8 × Delivery :=
  match d.read 1 with
  | (.ok (b :: _), d') => (.ok b, d')
  | (.ok [], d') => (.error .ended, d')
  | (.error cause, d') => (.error (.fault cause), d')

theorem readByte_size {d d' : Delivery} {b : UInt8} (h : readByte d = (.ok b, d')) :
    d'.size + 1 ≤ d.size := by
  unfold readByte at h
  split at h
  · rename_i hr
    cases h
    have := Delivery.read_ok_size hr
    simp only [List.length_cons] at this
    omega
  · cases h
  · cases h

/-- Reads `n` bytes, of which `got` are there. A failed attempt loses the bytes it had; after an interruption
it starts anew. -/
def readExact (n : Nat) (got : Bytes) (d : Delivery) : Except Stop Bytes × Delivery :=
  if n ≤ got.length then (.ok got, d)
  else
    match _h : d.read (n - got.length) with
    | (.ok [], d') => (.error .ended, d')
    | (.ok (b :: bs), d') => readExact n (got ++ b :: bs) d'
    | (.error cause, d') =>
      if cause.interrupted then readExact n [] d' else (.error (.fault cause), d')
termination_by d.size
decreasing_by
  · have := Delivery.read_ok_size _h
    simp only [List.length_cons] at this
    omega
  · exact Delivery.read_error_size _h

theorem readExact_size {n : Nat} {got bytes : Bytes} {d d' : Delivery}
    (h : readExact n got d = (.ok bytes, d')) : bytes.length + d'.size ≤ got.length + d.size := by
  fun_induction readExact n got d with
  | case1 => cases h; exact Nat.le_refl _
  | case2 => cases h
  | case3 got d hn b bs d1 hr ih =>
    have := ih h
    have := Delivery.read_ok_size hr
    simp only [List.length_append, List.length_cons] at *
    omega
  | case4 got d hn cause d1 hr hi ih =>
    have := ih h
    have := Delivery.read_error_size hr
    simp only [List.length_nil] at *
    omega
  | case5 => cases h

theorem readExact_rest_size {n : Nat} {bytes : Bytes} {d d' : Delivery}
    (h : readExact n [] d = (.ok bytes, d')) : d'.size ≤ d.size := by
  have := readExact_size h
  simp only [List.length_nil] at this
  omega

/-- Takes `n` bytes if they are there, and puts back what it got if they are not. -/
def takeBytes : Nat → Delivery → Option Bytes × Delivery
  | 0, d => (some [], d)
  | n + 1, d =>
    match readByte d with
    | (.ok b, d1) =>
      match takeBytes n d1 with
      | (some bs, d2) => (some (b :: bs), d2)
      | (none, d2) => (none, d2.unread [b])
    | (.error _, d1) => (none, d1)

theorem takeBytes_size {n : Nat} {d d' : Delivery} {bytes : Bytes}
    (h : takeBytes n d = (some bytes, d')) : bytes.length + d'.size ≤ d.size := by
  fun_induction takeBytes n d generalizing bytes with
  | case1 => cases h; simp
  | case2 n d b d1 hb bs d2 hr ih =>
    cases h
    have := ih hr
    have := readByte_size hb
    simp only [List.length_cons]
    omega
  | case3 => cases h
  | case4 => cases h

end Playout.Mpeg
