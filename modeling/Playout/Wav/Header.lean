import Playout.Source.Delivery

/-!
# The header of a RIFF/WAVE stream

A stream opens with `RIFF`, a size that is not looked at, and `WAVE`. Chunks follow, each with a name and a
size, and a pad byte behind an odd size. The scan goes up to the header of the `data` chunk and leaves the
delivery at the first byte of audio. Every `fmt ` chunk on the way has to describe 16-bit integer audio of
one or two channels, the last one counts, and all other chunks are skipped.
-/

namespace Playout.Wav

open Source

/-- The parameters of a stream, with the declared size of its audio in bytes. -/
structure Format where
  channels : UInt16
  sampleRate : UInt32
  dataBytes : UInt32
deriving DecidableEq, Repr

def bitsPerSample : Nat := 16

def Format.frameBytes (f : Format) : Nat := bitsPerSample / 8 * f.channels.toNat

structure Fmt where
  channels : UInt16
  sampleRate : UInt32
deriving DecidableEq, Repr

/-! ## Numbers, low byte first -/

def word (b0 b1 : UInt8) : UInt16 := b0.toUInt16 ||| (b1.toUInt16 <<< 8)

def long (b0 b1 b2 b3 : UInt8) : UInt32 :=
  b0.toUInt32 ||| (b1.toUInt32 <<< 8) ||| (b2.toUInt32 <<< 16) ||| (b3.toUInt32 <<< 24)

def ascii (name : String) : Bytes := name.toList.map fun c => c.toNat.toUInt8

/-! ## Reading parts of the header -/

/-- Reads up to `n` bytes; a failed read is a failure of the transport. -/
def readPart (d : Delivery) (n : Nat) : Except PlaybackError (Bytes × Delivery) :=
  match d.readFull n with
  | (.ok bytes, d') => .ok (bytes, d')
  | (.error cause, _) => .error (.transport cause.reason)

/-- Reads `n` bytes, all of which have to be there. -/
def readExactly (d : Delivery) (n : Nat) (part : String) : Except PlaybackError (Bytes × Delivery) :=
  match readPart d n with
  | .ok (bytes, d') => if bytes.length < n then .error (.format (.truncated part)) else .ok (bytes, d')
  | .error e => .error e

/-- Passes over `n` bytes, all of which have to be there. -/
def skip (d : Delivery) (n : Nat) (part : String) : Except PlaybackError Delivery :=
  match readExactly d n part with
  | .ok (_, d') => .ok d'
  | .error e => .error e

/-- Passes over the pad byte behind a chunk of odd size. -/
def skipPadding (d : Delivery) (size : Nat) : Except PlaybackError Delivery :=
  if size % 2 = 1 then skip d 1 "chunk padding" else .ok d

/-- Checks the first sixteen bytes of a `fmt ` chunk, in this order: encoding, width, channels, rate. -/
def checkFmt : Bytes → Except FormatError Fmt
  | [e0, e1, c0, c1, r0, r1, r2, r3, _, _, _, _, _, _, w0, w1] =>
    let encoding := word e0 e1
    let channels := word c0 c1
    let sampleRate := long r0 r1 r2 r3
    let bits := word w0 w1
    if encoding ≠ 1 then .error (.encoding encoding.toNat)
    else if bits.toNat ≠ bitsPerSample then .error (.bitDepth bits.toNat)
    else if channels ≠ 1 ∧ channels ≠ 2 then .error (.channels channels.toNat)
    else if sampleRate = 0 then .error (.sampleRate sampleRate.toNat)
    else .ok ⟨channels, sampleRate⟩
  | body => .error (.fmtTooShort body.length)

/-- Reads a `fmt ` chunk of `size` bytes and the pad byte behind it. -/
def readFmt (d : Delivery) (size : Nat) : Except PlaybackError (Fmt × Delivery) :=
  if size < 16 then .error (.format (.fmtTooShort size))
  else
    match readExactly d 16 "fmt chunk" with
    | .error e => .error e
    | .ok (body, d) =>
      match skip d (size - 16) "fmt chunk" with
      | .error e => .error e
      | .ok d =>
        match checkFmt body with
        | .error e => .error (.format e)
        | .ok fmt =>
          match skipPadding d size with
          | .error e => .error e
          | .ok d => .ok (fmt, d)

def skipChunk (d : Delivery) (size : Nat) : Except PlaybackError Delivery :=
  match skip d size "unknown chunk" with
  | .error e => .error e
  | .ok d => skipPadding d size

/-! ## The parts only consume -/

theorem readPart_size {d d' : Delivery} {n : Nat} {bytes : Bytes}
    (h : readPart d n = .ok (bytes, d')) : bytes.length + d'.size ≤ d.size := by
  have hf := d.readFull_size n
  unfold readPart at h
  split at h
  · rename_i hr
    cases h
    rw [hr] at hf
    exact hf
  · cases h

theorem readExactly_size {d d' : Delivery} {n : Nat} {part : String} {bytes : Bytes}
    (h : readExactly d n part = .ok (bytes, d')) : d'.size ≤ d.size := by
  unfold readExactly at h
  split at h
  · rename_i hr
    have := readPart_size hr
    split at h
    · cases h
    · cases h; omega
  · cases h

theorem skip_size {d d' : Delivery} {n : Nat} {part : String} (h : skip d n part = .ok d') :
    d'.size ≤ d.size := by
  unfold skip at h
  split at h
  · rename_i hr
    cases h
    exact readExactly_size hr
  · cases h

theorem skipPadding_size {d d' : Delivery} {size : Nat} (h : skipPadding d size = .ok d') :
    d'.size ≤ d.size := by
  unfold skipPadding at h
  split at h
  · exact skip_size h
  · cases h; exact Nat.le_refl _

theorem readFmt_size {d d' : Delivery} {size : Nat} {fmt : Fmt}
    (h : readFmt d size = .ok (fmt, d')) : d'.size ≤ d.size := by
  unfold readFmt at h
  split at h
  · cases h
  · split at h
    · cases h
    · rename_i h1
      split at h
      · cases h
      · rename_i h2
        split at h
        · cases h
        · split at h
          · cases h
          · rename_i h3
            cases h
            have := readExactly_size h1
            have := skip_size h2
            have := skipPadding_size h3
            omega

theorem skipChunk_size {d d' : Delivery} {size : Nat} (h : skipChunk d size = .ok d') :
    d'.size ≤ d.size := by
  unfold skipChunk at h
  split at h
  · cases h
  · rename_i h1
    have := skip_size h1
    have := skipPadding_size h
    omega

/-! ## The scan -/

/-- The chunk that is missing when the stream ends between chunks. -/
def missing (fmt : Option Fmt) : PlaybackError :=
  .format (.missingChunk (if fmt.isNone then "fmt" else "data"))

/-- Goes from chunk to chunk up to the header of the `data` chunk. `fmt` is what the last `fmt ` chunk
said. -/
def scanChunks (fmt : Option Fmt) (d : Delivery) : Except PlaybackError (Format × Delivery) :=
  match _h : readPart d 8 with
  | .error e => .error e
  | .ok ([i0, i1, i2, i3, z0, z1, z2, z3], d1) =>
    let name := [i0, i1, i2, i3]
    let size := long z0 z1 z2 z3
    if name = ascii "fmt " then
      match _h2 : readFmt d1 size.toNat with
      | .error e => .error e
      | .ok (next, d2) => scanChunks (some next) d2
    else if name = ascii "data" then
      match fmt with
      | none => .error (missing none)
      | some known => .ok (⟨known.channels, known.sampleRate, size⟩, d1)
    else
      match _h2 : skipChunk d1 size.toNat with
      | .error e => .error e
      | .ok d2 => scanChunks fmt d2
  | .ok _ => .error (missing fmt)
termination_by d.size
decreasing_by
  · have := readPart_size _h
    have := readFmt_size _h2
    simp only [List.length_cons, List.length_nil] at *
    omega
  · have := readPart_size _h
    have := skipChunk_size _h2
    simp only [List.length_cons, List.length_nil] at *
    omega

def readHeader (d : Delivery) : Except PlaybackError (Format × Delivery) :=
  match readExactly d 12 "RIFF header" with
  | .error e => .error e
  | .ok (riff, d) =>
    if riff.take 4 ≠ ascii "RIFF" then .error (.format .notRiff)
    else if riff.drop 8 ≠ ascii "WAVE" then .error (.format .notWave)
    else scanChunks none d

end Playout.Wav
