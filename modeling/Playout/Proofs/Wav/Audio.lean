import Mathlib
import Playout.Proofs.Pcm.Frames
import Playout.Proofs.Wav.Acceptance
import Playout.Proofs.Wav.Canonical

/-!
# What the reads of a decoder give

On a clean delivery the reads of a decoder cut the audio into pieces of its buffer size (`Decoder.runs`): the bytes
behind the header, but no more than were declared. One read takes one piece (`Decoder.read_of_ne_nil`), and when no
piece is left every further read says so (`Decoder.yields_runs`). As a buffer is a whole number of sample frames, only
what is left over from the last frame of the last piece is dropped (`Decoder.flatten_runs`).
-/

namespace Playout.Wav

open Source

/-- The piece without what is left over from its last sample frame. -/
def wholePart (frameBytes : Nat) (piece : Bytes) : Bytes := piece.take (piece.length - piece.length % frameBytes)

namespace Decoder

variable {w : Decoder}

/-- The result of a read that comes behind `k` others. -/
def nthRead (w : Decoder) (k : Nat) : Except PlaybackError (Option (List Sample)) :=
  ((fun w => w.read.2)^[k] w).read.1

/-- The reads give these runs, one after the other, and then always the end. -/
def Yields (w : Decoder) (runs : List (List Sample)) : Prop := ∀ k, w.nthRead k = .ok runs[k]?

theorem Yields.cons {w' : Decoder} {run : List Sample} {runs : List (List Sample)}
    (hread : w.read = (.ok (some run), w')) (h : w'.Yields runs) : w.Yields (run :: runs) := by
  intro k
  cases k with
  | zero => simp [nthRead, hread]
  | succ k =>
    rw [nthRead, Function.iterate_succ_apply, hread]
    exact h k

/-! ## One read -/

def audio (w : Decoder) : Bytes := w.delivery.bytes.take w.remaining

theorem read_of_nil (h : w.delivery.Clean) (hnil : w.audio = []) :
    ∃ w', w.read = (.ok none, w') ∧ w'.delivery.Clean ∧ w'.audio = [] := by
  rw [read]
  by_cases hdone : w.remaining = 0
  · exact ⟨w, if_pos hdone, h, hnil⟩
  · have hbytes : w.delivery.bytes = [] := (List.take_eq_nil_iff.1 hnil).resolve_left hdone
    rw [if_neg hdone, Delivery.readFull_of_clean h, hbytes, List.take_nil]
    exact ⟨_, rfl, h.past _, List.take_zero⟩

theorem drop_take_read (bytes : Bytes) (buffer remaining : Nat) :
    (bytes.drop (min buffer remaining)).take (remaining - ((bytes.take remaining).take buffer).length) =
      (bytes.take remaining).drop buffer := by
  rw [List.drop_take, List.take_take, List.length_take]
  rcases Nat.lt_or_ge bytes.length (min buffer remaining) with hshort | hlong
  · rw [List.drop_of_length_le hshort.le, List.drop_of_length_le (by omega), List.take_nil, List.take_nil]
  · rw [min_eq_left hlong]
    rcases Nat.le_total buffer remaining with hle | hle
    · rw [min_eq_left hle]
    · rw [min_eq_right hle, Nat.sub_self, Nat.sub_eq_zero_of_le hle, List.take_zero, List.take_zero]

theorem read_of_ne_nil (h : w.delivery.Clean) (hbuffer : 0 < w.bufferBytes) (hne : w.audio ≠ []) :
    ∃ w', w.read =
        (.ok (some (Pcm.ofLittleEndian (wholePart w.format.frameBytes (w.audio.take w.bufferBytes)))), w') ∧
      w'.delivery.Clean ∧ w'.format = w.format ∧ w'.bufferBytes = w.bufferBytes ∧
      w'.audio = w.audio.drop w.bufferBytes := by
  have htake : w.delivery.bytes.take (min w.bufferBytes w.remaining) = w.audio.take w.bufferBytes := by
    rw [audio, List.take_take]
  have hremaining : w.remaining ≠ 0 := by
    rintro hzero
    rw [audio, hzero, List.take_zero] at hne
    exact hne rfl
  rw [read, if_neg hremaining, Delivery.readFull_of_clean h, htake]
  cases hgot : w.audio.take w.bufferBytes with
  | nil => exact absurd ((List.take_eq_nil_iff.1 hgot).resolve_left hbuffer.ne') hne
  | cons b rest =>
    refine ⟨_, rfl, h.past _, rfl, rfl, ?_⟩
    rw [← hgot, audio, audio, Delivery.bytes_past h]
    exact drop_take_read _ _ _

/-! ## All reads -/

theorem yields_nil (h : w.delivery.Clean) (hnil : w.audio = []) : w.Yields [] := by
  intro k
  induction k generalizing w with
  | zero =>
    obtain ⟨w', hread, -⟩ := read_of_nil h hnil
    simp [nthRead, hread]
  | succ k ih =>
    obtain ⟨w', hread, hclean, hnil'⟩ := read_of_nil h hnil
    rw [nthRead, Function.iterate_succ_apply, hread]
    exact ih hclean hnil'

/-- What the reads give: the pieces of the audio, without what is left over from the last sample frame. -/
def runs (w : Decoder) : List (List Sample) :=
  (Pcm.pieces w.bufferBytes w.audio).map fun piece => Pcm.ofLittleEndian (wholePart w.format.frameBytes piece)

theorem yields_runs (h : w.delivery.Clean) (hbuffer : 0 < w.bufferBytes) : w.Yields w.runs := by
  induction hn : w.audio.length using Nat.strong_induction_on generalizing w with
  | _ n ih =>
    by_cases hnil : w.audio = []
    · rw [runs, hnil, Pcm.pieces_nil]
      exact yields_nil h hnil
    · obtain ⟨w', hread, hclean, hformat, hsize, haudio⟩ := read_of_ne_nil h hbuffer hnil
      have hpos := List.length_pos_iff.2 hnil
      have hlt : w'.audio.length < n := by
        rw [haudio, List.length_drop]
        omega
      have hrest := ih _ hlt hclean (hsize ▸ hbuffer) rfl
      rw [runs, hformat, hsize, haudio] at hrest
      rw [runs, Pcm.pieces_of_ne_nil hbuffer hnil]
      exact hrest.cons hread

end Decoder

/-! ## Sample frames -/

theorem dvd_bufferSize (chunk frameBytes : Nat) : frameBytes ∣ bufferSize chunk frameBytes := by
  rw [bufferSize]
  rcases Nat.le_total (chunk - chunk % frameBytes) frameBytes with hle | hle
  · rw [max_eq_right hle]
  · rw [max_eq_left hle]
    exact Nat.dvd_sub_mod chunk

theorem bufferSize_eq (chunk frameBytes : Nat) :
    bufferSize chunk frameBytes = max frameBytes (chunk / frameBytes * frameBytes) := by
  rw [bufferSize, max_comm, Nat.div_mul_self_eq_mod_sub_self]

theorem wholePart_eq (frameBytes : Nat) (piece : Bytes) :
    wholePart frameBytes piece = piece.take (piece.length / frameBytes * frameBytes) := by
  rw [wholePart, Nat.div_mul_self_eq_mod_sub_self]

theorem wholePart_of_dvd {frameBytes : Nat} {piece : Bytes} (h : frameBytes ∣ piece.length) :
    wholePart frameBytes piece = piece := by
  rw [wholePart, Nat.mod_eq_zero_of_dvd h, Nat.sub_zero, List.take_length]

theorem wholePart_append {frameBytes : Nat} {front : Bytes} (back : Bytes) (h : frameBytes ∣ front.length) :
    wholePart frameBytes (front ++ back) = front ++ wholePart frameBytes back := by
  have hle := Nat.mod_le back.length frameBytes
  have hmod : (front.length + back.length) % frameBytes = back.length % frameBytes := by
    rw [Nat.add_mod, Nat.mod_eq_zero_of_dvd h, Nat.zero_add, Nat.mod_mod]
  rw [wholePart, wholePart, List.length_append, hmod, Nat.add_sub_assoc hle, List.take_length_add_append]

theorem length_wholePart (frameBytes : Nat) (piece : Bytes) :
    (wholePart frameBytes piece).length = piece.length - piece.length % frameBytes :=
  List.length_take_of_le (Nat.sub_le _ _)

theorem flatten_pieces_wholePart {frameBytes buffer : Nat} (heven : 2 ∣ frameBytes) (hbuffer : 0 < buffer)
    (hframes : frameBytes ∣ buffer) (audio : Bytes) :
    ((Pcm.pieces buffer audio).map fun piece => Pcm.ofLittleEndian (wholePart frameBytes piece)).flatten =
      Pcm.ofLittleEndian (wholePart frameBytes audio) := by
  induction audio using Pcm.frame_induction hbuffer with
  | short audio h =>
    by_cases hnil : audio = []
    · subst hnil
      rw [Pcm.pieces_nil]
      rfl
    · rw [Pcm.pieces_of_ne_nil hbuffer hnil, List.take_of_length_le h.le, List.drop_of_length_le h.le, Pcm.pieces_nil,
        List.map_singleton, List.flatten_singleton]
  | frame audio h ih =>
    have hne : audio ≠ [] := by
      rintro rfl
      simp only [List.length_nil] at h
      omega
    have htake : (audio.take buffer).length = buffer := List.length_take_of_le h
    have hdvd : frameBytes ∣ (audio.take buffer).length := by rwa [htake]
    rw [Pcm.pieces_of_ne_nil hbuffer hne, List.map_cons, List.flatten_cons, ih, wholePart_of_dvd hdvd,
      ← Pcm.ofLittleEndian_append _ (heven.trans hdvd), ← wholePart_append _ hdvd, List.take_append_drop]

theorem two_mul_length_run {frameBytes : Nat} (heven : 2 ∣ frameBytes) (piece : Bytes) :
    2 * (Pcm.ofLittleEndian (wholePart frameBytes piece)).length = piece.length - piece.length % frameBytes := by
  rw [Pcm.length_ofLittleEndian, length_wholePart]
  exact Nat.mul_div_cancel' (heven.trans (Nat.dvd_sub_mod piece.length))

/-! ## The runs of a decoder -/

namespace Decoder

variable {w : Decoder} {d : Delivery} {readChunkBytes : Nat}

theorem flatten_runs (heven : 2 ∣ w.format.frameBytes) (hbuffer : 0 < w.bufferBytes)
    (hframes : w.format.frameBytes ∣ w.bufferBytes) :
    w.runs.flatten = Pcm.ofLittleEndian (wholePart w.format.frameBytes w.audio) :=
  flatten_pieces_wholePart heven hbuffer hframes w.audio

theorem length_of_mem_runs {run : List Sample} (heven : 2 ∣ w.format.frameBytes) (hbuffer : 0 < w.bufferBytes)
    (hmem : run ∈ w.runs) : w.format.frameBytes ∣ 2 * run.length ∧ 2 * run.length ≤ w.bufferBytes := by
  obtain ⟨piece, hpiece, rfl⟩ := List.mem_map.1 hmem
  rw [two_mul_length_run heven]
  exact ⟨Nat.dvd_sub_mod piece.length, (Nat.sub_le _ _).trans (Pcm.length_of_mem_pieces hbuffer hpiece)⟩

theorem length_of_mem_dropLast_runs {run : List Sample} (heven : 2 ∣ w.format.frameBytes) (hbuffer : 0 < w.bufferBytes)
    (hframes : w.format.frameBytes ∣ w.bufferBytes) (hmem : run ∈ w.runs.dropLast) :
    2 * run.length = w.bufferBytes := by
  rw [runs, ← List.map_dropLast] at hmem
  obtain ⟨piece, hpiece, rfl⟩ := List.mem_map.1 hmem
  rw [two_mul_length_run heven, Pcm.length_of_mem_dropLast_pieces hbuffer hpiece, Nat.mod_eq_zero_of_dvd hframes,
    Nat.sub_zero]

theorem bufferSize_pos (o : Opening) (readChunkBytes : Nat) : 0 < bufferSize readChunkBytes o.format.frameBytes := by
  have hchannels := o.channels_format
  have hframe : 0 < o.format.frameBytes := by
    rw [Format.frameBytes]
    exact Nat.mul_pos (by decide) (by omega)
  exact hframe.trans_le (le_max_right _ _)

/-- A decoder that stands behind an opening gives the audio behind it in runs of whole sample frames, every one but the
last of them as long as the buffer. -/
theorem yields_of_opening (h : d.Clean) (o : Opening) {audio : Bytes} (hbytes : d.bytes = o.bytes ++ audio)
    (hnew : new d readChunkBytes = .ok w) :
    ∃ runs : List (List Sample), w.Yields runs ∧
      runs.flatten = Pcm.ofLittleEndian (wholePart o.format.frameBytes (audio.take (number o.dataSize))) ∧
      (∀ run ∈ runs, o.format.frameBytes ∣ 2 * run.length ∧
        2 * run.length ≤ bufferSize readChunkBytes o.format.frameBytes) ∧
      ∀ run ∈ runs.dropLast, 2 * run.length = bufferSize readChunkBytes o.format.frameBytes := by
  obtain ⟨d', hclean, haudio, hnew'⟩ := new_of_opening h o hbytes readChunkBytes
  cases hnew.symm.trans hnew'
  have heven : 2 ∣ o.format.frameBytes := Nat.dvd_mul_right _ _
  have hbuffer := bufferSize_pos o readChunkBytes
  have hframes := dvd_bufferSize readChunkBytes o.format.frameBytes
  refine ⟨runs _, yields_runs hclean hbuffer, ?_, fun run => length_of_mem_runs heven hbuffer,
    fun run => length_of_mem_dropLast_runs heven hbuffer hframes⟩
  rw [flatten_runs heven hbuffer hframes]
  simp only [Decoder.audio, haudio, o.toNat_dataBytes]

/-- The reads of an accepted stream give what was declared of its audio and is there, in whole sample frames, and then
the end. So the samples of a canonical stream are had back. -/
theorem reads_give_audio :
    (∀ (d : Delivery) (readChunkBytes : Nat) (w : Decoder), d.Clean → new d readChunkBytes = .ok w →
      ∃ (o : Opening) (audio : Bytes) (runs : List (List Sample)),
        d.bytes = o.bytes ++ audio ∧ w.format = o.format ∧ w.delivery.bytes = audio ∧ w.Yields runs ∧
        runs.flatten = Pcm.ofLittleEndian (audio.take
          (min (number o.dataSize) audio.length / w.format.frameBytes * w.format.frameBytes)) ∧
        (∀ run ∈ runs, w.format.frameBytes ∣ 2 * run.length ∧
          2 * run.length ≤ max w.format.frameBytes (readChunkBytes / w.format.frameBytes * w.format.frameBytes)) ∧
        ∀ run ∈ runs.dropLast,
          2 * run.length = max w.format.frameBytes (readChunkBytes / w.format.frameBytes * w.format.frameBytes)) ∧
    ∀ (channels rate : Nat) (samples : List Sample), channels = 1 ∨ channels = 2 → 0 < rate → rate < 2 ^ 32 →
      channels ∣ samples.length → 2 * samples.length < 2 ^ 32 →
      ∀ (d : Delivery) (readChunkBytes : Nat), d.Clean → d.bytes = canonical channels rate samples →
        ∃ (w : Decoder) (runs : List (List Sample)), new d readChunkBytes = .ok w ∧
          w.format.channels.toNat = channels ∧ w.format.sampleRate.toNat = rate ∧
          w.Yields runs ∧ runs.flatten = samples := by
  refine ⟨fun d readChunkBytes w h hnew => ?_, ?_⟩
  · obtain ⟨o, audio, hbytes⟩ | ⟨cause, hrefusal⟩ := opening_or_refusal d.bytes
    · obtain ⟨runs, hyields, hflatten, hruns, hlong⟩ := yields_of_opening h o hbytes hnew
      obtain ⟨d', -, haudio, hnew'⟩ := new_of_opening h o hbytes readChunkBytes
      cases hnew.symm.trans hnew'
      rw [bufferSize_eq] at hruns hlong
      rw [wholePart_eq, List.length_take, List.take_take] at hflatten
      have hle :=
        (Nat.div_mul_le_self (min (number o.dataSize) audio.length) o.format.frameBytes).trans (min_le_left _ _)
      rw [min_eq_left hle] at hflatten
      exact ⟨o, audio, runs, hbytes, rfl, haudio, hyields, hflatten, hruns, hlong⟩
    · cases hnew.symm.trans (new_of_refusal h hrefusal readChunkBytes)
  · intro channels rate samples hchannels hrate hrate' hwhole hsize d readChunkBytes h hbytes
    obtain ⟨o, hcanonical, hochannels, horate, hosize⟩ := canonical_eq hchannels hrate hrate' hsize
    rw [hcanonical] at hbytes
    obtain ⟨d', -, -, hnew⟩ := new_of_opening h o hbytes readChunkBytes
    obtain ⟨runs, hyields, hflatten, -⟩ := yields_of_opening h o hbytes hnew
    have hframe : o.format.frameBytes ∣ (Pcm.toLittleEndian samples).length := by
      have hchannels' : o.format.channels.toNat = channels := hochannels
      rw [Pcm.length_toLittleEndian, Format.frameBytes, hchannels']
      exact Nat.mul_dvd_mul_left 2 hwhole
    rw [hosize, ← Pcm.length_toLittleEndian, List.take_length, wholePart_of_dvd hframe,
      Pcm.ofLittleEndian_toLittleEndian] at hflatten
    exact ⟨_, runs, hnew, hochannels, horate, hyields, hflatten⟩

theorem reads_give_stereo_audio :
    ∃ w, new (.ofArrivals [.chunk (canonical 2 8000 [1, -2, 3, -4])]) 6 = .ok w ∧
      (∃ runs, w.Yields runs ∧ runs.flatten = [1, -2, 3, -4]) ∧
      ∃ runs, w.Yields runs ∧ ∀ run ∈ runs.dropLast, 2 * run.length = 4 := by
  have hclean : (Delivery.ofArrivals [.chunk (canonical 2 8000 [1, -2, 3, -4])]).Clean := by
    intro arrival hmem
    rw [List.mem_singleton.1 hmem]
    rfl
  have hbytes :
      (Delivery.ofArrivals [.chunk (canonical 2 8000 [1, -2, 3, -4])]).bytes = canonical 2 8000 [1, -2, 3, -4] := by
    rw [Delivery.bytes_ofArrivals, List.flatMap_singleton, Arrival.bytes]
  obtain ⟨w, runs, hnew, hchannels, -, hyields, hflatten⟩ :=
    reads_give_audio.2 2 8000 [1, -2, 3, -4] (.inr rfl) (by decide) (by decide) (by decide) (by decide) _ 6 hclean
      hbytes
  obtain ⟨o, audio, runs', -, -, -, hyields', -, -, hlong⟩ := reads_give_audio.1 _ 6 w hclean hnew
  have hframe : w.format.frameBytes = 4 := by rw [Format.frameBytes, hchannels]; rfl
  rw [hframe] at hlong
  exact ⟨w, hnew, ⟨runs, hyields, hflatten⟩, runs', hyields', hlong⟩

end Decoder

end Playout.Wav
