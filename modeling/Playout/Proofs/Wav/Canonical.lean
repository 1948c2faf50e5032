import Mathlib
import Playout.Proofs.Pcm.Sample
import Playout.Proofs.Wav.Grammar

/-!
# The canonical stream of a run of samples

The usual way to write samples down: one `fmt ` chunk of sixteen bytes, and behind the header of the `data` chunk
the samples, each low byte first (`canonical`). Such a stream begins with an opening that says what it was
written with (`canonical_eq`).
-/

namespace Playout.Wav

/-! ## Numbers as bytes -/

def digits : Nat → Nat → Bytes
  | 0, _ => []
  | width + 1, n => n.toUInt8 :: digits width (n / 256)

theorem length_digits (width n : Nat) : (digits width n).length = width := by
  induction width generalizing n with
  | zero => rfl
  | succ width ih => rw [digits, List.length_cons, ih]

theorem number_digits {width n : Nat} (h : n < 256 ^ width) : number (digits width n) = n := by
  induction width generalizing n with
  | zero =>
    have hzero : n = 0 := by simpa using h
    rw [hzero]
    rfl
  | succ width ih =>
    have hsmall : n / 256 < 256 ^ width := by
      rw [pow_succ] at h
      omega
    have hdigit : n.toUInt8.toNat = n % 256 := UInt8.toNat_ofNat'
    rw [digits, number, ih hsmall, hdigit]
    omega

theorem digits_number (bytes : Bytes) : digits bytes.length (number bytes) = bytes := by
  induction bytes with
  | nil => rfl
  | cons b rest ih =>
    have hb := b.toNat_lt
    have hhead : (b.toNat + 256 * number rest).toUInt8 = b := by
      apply UInt8.toNat_inj.1
      rw [Nat.toUInt8, UInt8.toNat_ofNat']
      omega
    have hrest : (b.toNat + 256 * number rest) / 256 = number rest := by omega
    rw [List.length_cons, number, digits, hhead, hrest, ih]

theorem numberAt_digits {front : Bytes} {place width n : Nat} (back : Bytes) (hplace : front.length = place)
    (hn : n < 256 ^ width) : numberAt (front ++ (digits width n ++ back)) place width = n := by
  rw [numberAt, List.drop_left' hplace, List.take_left' (length_digits width n), number_digits hn]

/-! ## The `fmt ` chunk -/

/-- Encoding, channels, rate, bytes of a second, bytes of a sample frame, sample width. -/
def fmtBody (channels rate : Nat) : Bytes :=
  digits 2 1 ++ digits 2 channels ++ digits 4 rate ++ digits 4 (2 * channels * rate) ++ digits 2 (2 * channels) ++
    digits 2 bitsPerSample

theorem length_fmtBody (channels rate : Nat) : (fmtBody channels rate).length = 16 := by
  simp only [fmtBody, List.length_append, length_digits]

def fmtChunk (channels rate : Nat) : Chunk where
  name := ascii "fmt "
  size := digits 4 16
  body := fmtBody channels rate
  pad := []
  length_name := rfl
  length_size := length_digits 4 16
  number_size := by rw [number_digits (by decide), length_fmtBody]
  length_pad := by rw [length_fmtBody]; rfl

def canonical (channels rate : Nat) (samples : List Sample) : Bytes :=
  ascii "RIFF" ++ digits 4 (36 + 2 * samples.length) ++ ascii "WAVE" ++
    (ascii "fmt " ++ digits 4 16 ++ fmtBody channels rate) ++
    (ascii "data" ++ digits 4 (2 * samples.length)) ++ Pcm.toLittleEndian samples

section

variable {channels rate : Nat}

theorem numberAt_fmtBody_encoding : numberAt (fmtBody channels rate) 0 2 = 1 := by
  have hsplit : fmtBody channels rate = [] ++ (digits 2 1 ++ (fmtBody channels rate).drop 2) := rfl
  rw [hsplit]
  exact numberAt_digits _ rfl (by decide)

theorem numberAt_fmtBody_channels (h : channels = 1 ∨ channels = 2) :
    numberAt (fmtBody channels rate) 2 2 = channels := by
  simp only [fmtBody, List.append_assoc]
  exact numberAt_digits _ (length_digits 2 1) (by omega)

theorem numberAt_fmtBody_rate (h : rate < 2 ^ 32) : numberAt (fmtBody channels rate) 4 4 = rate := by
  have hsplit : fmtBody channels rate = (digits 2 1 ++ digits 2 channels) ++ (digits 4 rate ++
      (digits 4 (2 * channels * rate) ++ digits 2 (2 * channels) ++ digits 2 bitsPerSample)) := by
    simp only [fmtBody, List.append_assoc]
  rw [hsplit]
  exact numberAt_digits _ rfl (by omega)

theorem numberAt_fmtBody_bits : numberAt (fmtBody channels rate) 14 2 = bitsPerSample := by
  rw [fmtBody, ← List.append_nil (digits 2 bitsPerSample)]
  exact numberAt_digits [] rfl (by decide)

theorem leads_fmtChunk (hchannels : channels = 1 ∨ channels = 2) (hrate : 0 < rate) (hrate' : rate < 2 ^ 32) :
    (fmtChunk channels rate).Leads := by
  have hname : ascii "fmt " ≠ ascii "data" := by decide
  refine ⟨hname, fun _ => ⟨(length_fmtBody channels rate).ge, numberAt_fmtBody_encoding, numberAt_fmtBody_bits, ?_, ?_⟩⟩
  · exact (numberAt_fmtBody_channels hchannels).symm ▸ hchannels
  · exact (numberAt_fmtBody_rate hrate').symm ▸ hrate.ne'

theorem canonical_eq (hchannels : channels = 1 ∨ channels = 2) (hrate : 0 < rate) (hrate' : rate < 2 ^ 32)
    {samples : List Sample} (hsize : 2 * samples.length < 2 ^ 32) :
    ∃ o : Opening, canonical channels rate samples = o.bytes ++ Pcm.toLittleEndian samples ∧
      o.fmt.channels.toNat = channels ∧ o.fmt.sampleRate.toNat = rate ∧ number o.dataSize = 2 * samples.length := by
  have hfmt : fmtOf (fmtBody channels rate) = ⟨.ofNat channels, .ofNat rate⟩ := by
    rw [fmtOf, numberAt_fmtBody_channels hchannels, numberAt_fmtBody_rate hrate']
  have hknown : known [fmtChunk channels rate] = some ⟨.ofNat channels, .ofNat rate⟩ := by
    rw [known_singleton, ← hfmt]
    exact if_pos rfl
  have hword : channels < 2 ^ 16 := by omega
  refine ⟨{ size := digits 4 (36 + 2 * samples.length)
            chunks := [fmtChunk channels rate]
            length_size := length_digits 4 _
            leads := List.forall_mem_singleton.2 (leads_fmtChunk hchannels hrate hrate')
            fmt := ⟨.ofNat channels, .ofNat rate⟩
            dataSize := digits 4 (2 * samples.length)
            known_chunks := hknown
            length_dataSize := length_digits 4 _ }, ?_, UInt16.toNat_ofNat_of_lt' hword,
    UInt32.toNat_ofNat_of_lt' hrate', number_digits (by omega)⟩
  simp [canonical, Opening.bytes, Lead.bytes, Chunk.bytes, fmtChunk]

end

end Playout.Wav
