import Playout.Mpeg.Header
import Playout.Mpeg.Reading

/-!
# Frames of an MPEG audio stream

The frames of a stream follow one another, but junk may stand in front of the first and between them, so the
search for a frame synchronises on headers. The first frame counts only if what follows it, as far as that is
there, looks like the next frame; otherwise the search goes on one byte behind it.
-/

namespace Playout.Mpeg

open Source

/-- A frame as it stands in the stream. -/
structure Frame where
  header : Header
  headerImage : Bytes
  body : Bytes
deriving DecidableEq, Repr

def Frame.image (f : Frame) : Bytes := f.headerImage ++ f.body

/-! ## The next frame -/

/-- The header that a window of four bytes holds, or the part of the window to go on with. A header of free
bit rate is given up as a whole. -/
def headerIn : Bytes → Header ⊕ Bytes
  | [b3, b2, b1, b0] =>
    if wellFormed (wordOf b3 b2 b1 b0) then
      match Header.ofWord? (wordOf b3 b2 b1 b0) with
      | some h => .inl h
      | none => .inr []
    else .inr [b2, b1, b0]
  | window => .inr window

theorem headerIn_inl {window : Bytes} {h : Header} (hw : headerIn window = .inl h) :
    window.length = 4 := by
  unfold headerIn at hw
  split at hw
  · rfl
  · cases hw

theorem headerIn_inr {window rest : Bytes} (hw : headerIn window = .inr rest) :
    rest.length ≤ window.length := by
  unfold headerIn at hw
  split at hw
  · split at hw
    · split at hw
      · cases hw
      · cases hw; simp
    · cases hw; simp
  · cases hw; exact Nat.le_refl _

/-- Goes on to the next header; the window holds the bytes just read. -/
def sync (window : Bytes) (d : Delivery) : Except Stop (Header × Bytes) × Delivery :=
  match headerIn window with
  | .inl h => (.ok (h, window), d)
  | .inr rest =>
    match _h : readByte d with
    | (.ok b, d') => sync (rest ++ [b]) d'
    | (.error stop, d') => (.error stop, d')
termination_by d.size
decreasing_by
  have := readByte_size _h
  omega

theorem sync_size {window image : Bytes} {d d' : Delivery} {h : Header}
    (hs : sync window d = (.ok (h, image), d')) :
    image.length = 4 ∧ image.length + d'.size ≤ window.length + d.size := by
  fun_induction sync window d with
  | case1 window d h hw =>
    cases hs
    exact ⟨headerIn_inl hw, Nat.le_refl _⟩
  | case2 window d rest hw b d1 hb ih =>
    obtain ⟨h1, h2⟩ := ih hs
    refine ⟨h1, ?_⟩
    have := headerIn_inr hw
    have := readByte_size hb
    simp only [List.length_append, List.length_cons, List.length_nil] at h2
    omega
  | case3 => cases hs

def readFrame (d : Delivery) : Except Stop Frame × Delivery :=
  match sync [] d with
  | (.error stop, d1) => (.error stop, d1)
  | (.ok (h, image), d1) =>
    match readExact h.bodyBytes [] d1 with
    | (.ok body, d2) => (.ok ⟨h, image, body⟩, d2)
    | (.error stop, d2) => (.error stop, d2)

theorem readFrame_size {d d' : Delivery} {f : Frame} (h : readFrame d = (.ok f, d')) :
    0 < f.image.length ∧ f.image.length + d'.size ≤ d.size := by
  unfold readFrame at h
  split at h
  · cases h
  · rename_i hs
    split at h
    · rename_i hb
      cases h
      obtain ⟨h1, h2⟩ := sync_size hs
      have := readExact_size hb
      simp only [Frame.image, List.length_append, List.length_nil] at *
      omega
    · cases h

/-- The bytes open another frame of the same stream. -/
def Frame.continuedBy (f : Frame) : Bytes → Bool
  | [b3, b2, b1, b0] => f.header.continuedBy (wordOf b3 b2 b1 b0)
  | _ => false

/-- Finds the first frame and stands behind it. A frame that is not followed by one like it is junk, if
anything follows it at all. -/
def firstFrame (d : Delivery) : Except Stop Frame × Delivery :=
  match _h : readFrame d with
  | (.error stop, d1) => (.error stop, d1)
  | (.ok f, d1) =>
    match _h2 : takeBytes headerBytes d1 with
    | (some next, d2) =>
      if f.continuedBy next then (.ok f, d2.unread next)
      else firstFrame (d2.unread (f.image.drop 1 ++ next))
    | (none, d2) => (.ok f, d2)
termination_by d.size
decreasing_by
  have := readFrame_size _h
  have := takeBytes_size _h2
  simp only [Delivery.unread_size, List.length_append, List.length_drop]
  omega

end Playout.Mpeg
