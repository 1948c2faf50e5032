import Playout.Session.Cue
import Playout.Source.Container

/-!
# What a decoder reports

A decoder reports the parameters of the stream, then one run of samples after another. The first failure is
its last report.
-/

namespace Playout

/-- What is left of the source of a decoder. -/
def Decoder.delivery : Decoder → Source.Delivery
  | .mp3 state => state.delivery
  | .wav state => state.delivery

theorem Wav.Decoder.read_size {w w' : Wav.Decoder} {samples : List Sample}
    (h : w.read = (.ok (some samples), w')) : w'.delivery.size < w.delivery.size := by
  have hf := w.delivery.readFull_size (min w.bufferBytes w.remaining)
  unfold Wav.Decoder.read at h
  split at h
  · cases h
  · rcases hr : w.delivery.readFull (min w.bufferBytes w.remaining) with ⟨_ | bytes, d⟩
    · rw [hr] at h
      cases h
    · rw [hr] at h hf
      cases bytes with
      | nil => cases h
      | cons b bs =>
        cases h
        simp only [List.length_cons] at hf ⊢
        omega

theorem Mpeg.Decoder.decode_delivery (m : Mpeg.Decoder) (f : Mpeg.Frame) :
    (m.decode f).2.delivery = m.delivery := by
  unfold Mpeg.Decoder.decode
  dsimp only
  split
  · rfl
  · split
    · rfl
    · split <;> rfl

theorem Mpeg.Decoder.read_size {m m' : Mpeg.Decoder} {samples : List Sample}
    (h : m.read = (.ok (some samples), m')) : m'.delivery.size < m.delivery.size := by
  unfold Mpeg.Decoder.read at h
  split at h
  · cases h
  · cases h
  · rename_i f d hr
    have hd := Mpeg.Decoder.decode_delivery { m with delivery := d } f
    have := Mpeg.nextFrame_size hr
    split at h
    · rename_i hs
      cases h
      rw [hs] at hd
      simp only at hd
      rw [hd]
      omega
    · cases h

/-- Every run of samples takes something from the source. -/
theorem Decoder.read_size {d d' : Decoder} {samples : List Sample}
    (h : d.read = (.ok (some samples), d')) : d'.delivery.size < d.delivery.size := by
  cases d with
  | mp3 state =>
    simp only [Decoder.read, Prod.mk.injEq] at h
    obtain ⟨h1, rfl⟩ := h
    exact Mpeg.Decoder.read_size (Prod.ext h1 rfl)
  | wav state =>
    simp only [Decoder.read, Prod.mk.injEq] at h
    obtain ⟨h1, rfl⟩ := h
    exact Wav.Decoder.read_size (Prod.ext h1 rfl)

def Decoder.runs (d : Decoder) : List Event :=
  match _h : d.read with
  | (.ok (some samples), d') => .samples samples :: d'.runs
  | (.ok none, _) => []
  | (.error cause, _) => [.failed cause]
termination_by d.delivery.size
decreasing_by exact Decoder.read_size _h

/-- All reports on a source of a kind. -/
def Event.feed (format : AudioFormat) (source : Source.Delivery) (readChunkBytes : Nat) :
    List Event :=
  match Decoder.new format source readChunkBytes with
  | .error cause => [.failed cause]
  | .ok d => .spec d.spec :: d.runs

end Playout
