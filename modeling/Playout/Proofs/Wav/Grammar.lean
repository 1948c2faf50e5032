import Mathlib
import Playout.Proofs.Pcm.Sample
import Playout.Wav.Header

/-!
# What a RIFF/WAVE stream is

The grammar of a stream up to its audio, said without reading it. Chunks stand in full behind the twelve bytes
that begin the stream (`Chunk`, `Lead`), and the header of the `data` chunk follows, once a `fmt ` chunk was
there (`Opening`). Whatever else a stream is, there is a first place where it is not that, and a first
constraint that it violates there (`Refusal`). The constraints of each place are listed in the order in which
they are looked at (`openingConstraints`, `chunkConstraints`). Every stream either begins with an opening or is
refused (`opening_or_refusal`).
-/

namespace Playout.Wav

open Source

/-! ## Numbers -/

def number : Bytes → Nat
  | [] => 0
  | b :: rest => b.toNat + 256 * number rest

def numberAt (bytes : Bytes) (place width : Nat) : Nat := number ((bytes.drop place).take width)

theorem number_lt (bytes : Bytes) : number bytes < 256 ^ bytes.length := by
  induction bytes with
  | nil => simp [number]
  | cons b rest ih =>
    have hb := b.toNat_lt
    rw [number, List.length_cons, pow_succ]
    omega

theorem numberAt_take {bytes : Bytes} {place width n : Nat} (h : place + width ≤ n) :
    numberAt (bytes.take n) place width = numberAt bytes place width := by
  rw [numberAt, numberAt, List.drop_take, List.take_take, min_eq_left (by omega)]

theorem toNat_word (b0 b1 : UInt8) : (word b0 b1).toNat = number [b0, b1] := by
  have h0 := b0.toNat_lt
  have h1 := b1.toNat_lt
  have two : b0.toNat ||| b1.toNat <<< 8 % 2 ^ 16 = b0.toNat + b1.toNat * 2 ^ 8 := lor_shiftLeft_mod h0 (by omega)
  have hword : (word b0 b1).toNat = b0.toNat ||| b1.toNat <<< 8 % 2 ^ 16 := rfl
  rw [hword, two]
  simp only [number]
  omega

theorem toNat_long (b0 b1 b2 b3 : UInt8) : (long b0 b1 b2 b3).toNat = number [b0, b1, b2, b3] := by
  have h0 := b0.toNat_lt
  have h1 := b1.toNat_lt
  have h2 := b2.toNat_lt
  have h3 := b3.toNat_lt
  have two : b0.toNat ||| b1.toNat <<< 8 % 2 ^ 32 = b0.toNat + b1.toNat * 2 ^ 8 := lor_shiftLeft_mod h0 (by omega)
  have three : (b0.toNat + b1.toNat * 2 ^ 8) ||| b2.toNat <<< 16 % 2 ^ 32 =
      b0.toNat + b1.toNat * 2 ^ 8 + b2.toNat * 2 ^ 16 := lor_shiftLeft_mod (by omega) (by omega)
  have four : (b0.toNat + b1.toNat * 2 ^ 8 + b2.toNat * 2 ^ 16) ||| b3.toNat <<< 24 % 2 ^ 32 =
      b0.toNat + b1.toNat * 2 ^ 8 + b2.toNat * 2 ^ 16 + b3.toNat * 2 ^ 24 := lor_shiftLeft_mod (by omega) (by omega)
  have hlong : (long b0 b1 b2 b3).toNat =
      b0.toNat ||| b1.toNat <<< 8 % 2 ^ 32 ||| b2.toNat <<< 16 % 2 ^ 32 ||| b3.toNat <<< 24 % 2 ^ 32 := rfl
  rw [hlong, two, three, four]
  simp only [number]
  omega

/-! ## Chunks -/

/-- A chunk in full: a name, a size, as many bytes, and one more where the size is odd. -/
structure Chunk where
  name : Bytes
  size : Bytes
  body : Bytes
  pad : Bytes
  length_name : name.length = 4
  length_size : size.length = 4
  number_size : number size = body.length
  length_pad : pad.length = body.length % 2

/-- What a `fmt ` chunk says that counts. -/
def fmtOf (body : Bytes) : Fmt := ⟨.ofNat (numberAt body 2 2), .ofNat (numberAt body 4 4)⟩

/-- A `fmt ` chunk that can be played: integer samples of 16 bits, of one or two channels, at some rate. -/
structure ValidFmt (body : Bytes) : Prop where
  length_le : 16 ≤ body.length
  encoding : numberAt body 0 2 = 1
  bits : numberAt body 14 2 = bitsPerSample
  channels : numberAt body 2 2 = 1 ∨ numberAt body 2 2 = 2
  sampleRate : numberAt body 4 4 ≠ 0

namespace Chunk

def bytes (c : Chunk) : Bytes := c.name ++ c.size ++ c.body ++ c.pad

/-- A chunk that may stand before the audio. -/
def Leads (c : Chunk) : Prop := c.name ≠ ascii "data" ∧ (c.name = ascii "fmt " → ValidFmt c.body)

/-- What the chunk says about the audio. -/
def fmt (c : Chunk) : Option Fmt := if c.name = ascii "fmt " then some (fmtOf c.body) else none

theorem length_bytes (c : Chunk) : c.bytes.length = 8 + c.body.length + c.body.length % 2 := by
  simp only [bytes, List.length_append, c.length_name, c.length_size, c.length_pad]

theorem bytes_append (c : Chunk) (rest : Bytes) :
    c.bytes ++ rest = c.name ++ (c.size ++ (c.body ++ (c.pad ++ rest))) := by
  simp only [bytes, List.append_assoc]

theorem take_name (c : Chunk) (rest : Bytes) : (c.bytes ++ rest).take 4 = c.name := by
  rw [bytes_append, List.take_left' c.length_name]

theorem numberAt_size (c : Chunk) (rest : Bytes) : numberAt (c.bytes ++ rest) 4 4 = c.body.length := by
  rw [numberAt, bytes_append, List.drop_left' c.length_name, List.take_left' c.length_size, c.number_size]

theorem drop_header (c : Chunk) (rest : Bytes) : (c.bytes ++ rest).drop 8 = c.body ++ (c.pad ++ rest) := by
  rw [bytes_append, ← List.append_assoc]
  exact List.drop_left' (by rw [List.length_append, c.length_name, c.length_size])

theorem exists_of_long_enough {bytes : Bytes} (hheader : 8 ≤ bytes.length)
    (hbehind : numberAt bytes 4 4 + numberAt bytes 4 4 % 2 ≤ (bytes.drop 8).length) :
    ∃ (c : Chunk) (rest : Bytes), bytes = c.bytes ++ rest := by
  generalize hn : numberAt bytes 4 4 = n at hbehind
  have hbody : ((bytes.drop 8).take n).length = n := List.length_take_of_le (by omega)
  have hpad : (((bytes.drop 8).drop n).take (n % 2)).length = n % 2 :=
    List.length_take_of_le (by rw [List.length_drop]; omega)
  have hsplit : bytes = bytes.take 4 ++ ((bytes.drop 4).take 4 ++ ((bytes.drop 8).take n ++
      (((bytes.drop 8).drop n).take (n % 2) ++ ((bytes.drop 8).drop n).drop (n % 2)))) := by
    have hdrop : bytes.drop 8 = (bytes.drop 4).drop 4 := by rw [List.drop_drop]
    rw [List.take_append_drop, List.take_append_drop, hdrop, List.take_append_drop, List.take_append_drop]
  let c : Chunk :=
    { name := bytes.take 4
      size := (bytes.drop 4).take 4
      body := (bytes.drop 8).take n
      pad := ((bytes.drop 8).drop n).take (n % 2)
      length_name := List.length_take_of_le (by omega)
      length_size := List.length_take_of_le (by rw [List.length_drop]; omega)
      number_size := hn.trans hbody.symm
      length_pad := by rw [hpad, hbody] }
  exact ⟨c, _, hsplit.trans (c.bytes_append _).symm⟩

end Chunk

/-- What the last `fmt ` chunk says. -/
def known (chunks : List Chunk) : Option Fmt := (chunks.filterMap Chunk.fmt).getLast?

theorem known_append (front back : List Chunk) : known (front ++ back) = (known back).or (known front) := by
  rw [known, known, known, List.filterMap_append, List.getLast?_append]

theorem known_singleton (c : Chunk) : known [c] = c.fmt := by
  cases h : c.fmt <;> simp [known, List.filterMap, h]

theorem exists_of_known {chunks : List Chunk} {fmt : Fmt} (h : known chunks = some fmt) :
    ∃ c ∈ chunks, c.name = ascii "fmt " ∧ fmt = fmtOf c.body := by
  obtain ⟨c, hmem, hfmt⟩ := List.mem_filterMap.1 (List.mem_of_getLast? h)
  rw [Chunk.fmt] at hfmt
  split at hfmt
  · next hname => exact ⟨c, hmem, hname, (Option.some.inj hfmt).symm⟩
  · cases hfmt

/-! ## What stands before the audio -/

/-- The beginning of a stream up to the end of some chunk. -/
structure Lead where
  size : Bytes
  chunks : List Chunk
  length_size : size.length = 4
  leads : ∀ c ∈ chunks, c.Leads

def Lead.bytes (l : Lead) : Bytes := ascii "RIFF" ++ l.size ++ ascii "WAVE" ++ l.chunks.flatMap Chunk.bytes

/-- The beginning of a stream up to its audio. -/
structure Opening extends Lead where
  fmt : Fmt
  dataSize : Bytes
  known_chunks : known chunks = some fmt
  length_dataSize : dataSize.length = 4

namespace Opening

def bytes (o : Opening) : Bytes := o.toLead.bytes ++ (ascii "data" ++ o.dataSize)

def format (o : Opening) : Format := ⟨o.fmt.channels, o.fmt.sampleRate, .ofNat (number o.dataSize)⟩

theorem channels_format (o : Opening) : o.format.channels.toNat = 1 ∨ o.format.channels.toNat = 2 := by
  obtain ⟨c, hmem, hname, hfmt⟩ := exists_of_known o.known_chunks
  have hchannels := ((o.leads c hmem).2 hname).channels
  have htoNat : o.format.channels.toNat = numberAt c.body 2 2 := by
    rw [format, hfmt]
    exact UInt16.toNat_ofNat_of_lt' (show _ < 2 ^ 16 by omega)
  rwa [htoNat]

theorem toNat_dataBytes (o : Opening) : o.format.dataBytes.toNat = number o.dataSize := by
  have hlt := number_lt o.dataSize
  rw [o.length_dataSize] at hlt
  exact UInt32.toNat_ofNat_of_lt' hlt

end Opening

/-! ## Constraints -/

/-- Something a stream has to meet, and what is said where it does not. -/
structure Constraint where
  /-- Where the bytes it is about begin, behind the beginning of the stream or of the chunk. -/
  place : Nat
  holds : Bool
  cause : FormatError

/-- What is said about the first constraint that is not met. -/
def firstViolated (constraints : List Constraint) : Option FormatError :=
  (constraints.find? fun c => !c.holds).map Constraint.cause

/-- In the order of the bytes that they are about. -/
def inStreamOrder (constraints : List Constraint) : List Constraint :=
  constraints.insertionSort fun a b => a.place ≤ b.place

@[simp] theorem firstViolated_nil : firstViolated [] = none := rfl

@[simp] theorem firstViolated_cons (c : Constraint) (rest : List Constraint) :
    firstViolated (c :: rest) = if c.holds then firstViolated rest else some c.cause := by
  cases h : c.holds <;> simp [firstViolated, h]

@[simp] theorem firstViolated_append (front back : List Constraint) :
    firstViolated (front ++ back) = (firstViolated front).or (firstViolated back) := by
  rw [firstViolated, List.find?_append, Option.map_or]
  rfl

theorem firstViolated_cons_eq_none {c : Constraint} {rest : List Constraint} :
    firstViolated (c :: rest) = none ↔ c.holds = true ∧ firstViolated rest = none := by
  cases h : c.holds <;> simp [h]

/-- The twelve bytes that begin a stream. -/
def openingConstraints (bytes : Bytes) : List Constraint :=
  [⟨0, 12 ≤ bytes.length, .truncated "RIFF header"⟩,
    ⟨0, bytes.take 4 = ascii "RIFF", .notRiff⟩,
    ⟨8, (bytes.take 12).drop 8 = ascii "WAVE", .notWave⟩]

def paddingConstraint (size : Nat) (behind : Bytes) : Constraint :=
  ⟨8 + size, size + size % 2 ≤ behind.length, .truncated "chunk padding"⟩

/-- The fields of a `fmt ` chunk. The sample width comes before the channels and the rate. -/
def fieldConstraints (body : Bytes) : List Constraint :=
  [⟨8, numberAt body 0 2 = 1, .encoding (numberAt body 0 2)⟩,
    ⟨22, numberAt body 14 2 = bitsPerSample, .bitDepth (numberAt body 14 2)⟩,
    ⟨10, numberAt body 2 2 = 1 ∨ numberAt body 2 2 = 2, .channels (numberAt body 2 2)⟩,
    ⟨12, numberAt body 4 4 ≠ 0, .sampleRate (numberAt body 4 4)⟩]

/-- A `fmt ` chunk of this size, by what stands behind its header. -/
def fmtConstraints (size : Nat) (behind : Bytes) : List Constraint :=
  [⟨4, 16 ≤ size, .fmtTooShort size⟩, ⟨8, size ≤ behind.length, .truncated "fmt chunk"⟩] ++
    fieldConstraints (behind.take size) ++ [paddingConstraint size behind]

/-- A chunk that is passed over. -/
def otherConstraints (size : Nat) (behind : Bytes) : List Constraint :=
  [⟨8, size ≤ behind.length, .truncated "unknown chunk"⟩, paddingConstraint size behind]

/-- The name of the chunk that a stream lacks which ends between chunks. -/
def lacking (seen : Option Fmt) : String := if seen.isNone then "fmt" else "data"

/-- The chunk that begins here, where the chunks before it say `seen` about the audio. -/
def chunkConstraints (seen : Option Fmt) (bytes : Bytes) : List Constraint :=
  ⟨0, 8 ≤ bytes.length, .missingChunk (lacking seen)⟩ ::
    if bytes.take 4 = ascii "fmt " then fmtConstraints (numberAt bytes 4 4) (bytes.drop 8)
    else if bytes.take 4 = ascii "data" then [⟨0, seen.isSome, .missingChunk (lacking none)⟩]
    else otherConstraints (numberAt bytes 4 4) (bytes.drop 8)

/-- A stream that is not what it has to be, and what is said about it: the first constraint that it violates, in its
first twelve bytes or else in the first chunk that violates one. -/
inductive Refusal (bytes : Bytes) (cause : FormatError) : Prop
  | opening (h : firstViolated (openingConstraints bytes) = some cause)
  | chunk (lead : Lead) (rest : Bytes) (hbytes : bytes = lead.bytes ++ rest)
      (h : firstViolated (chunkConstraints (known lead.chunks) rest) = some cause)

/-! ## Where nothing is violated -/

theorem fieldConstraints_eq_none {body : Bytes} (h : 16 ≤ body.length) :
    firstViolated (fieldConstraints body) = none ↔ ValidFmt body := by
  simp only [fieldConstraints, firstViolated_cons_eq_none, firstViolated_nil, decide_eq_true_eq, and_true]
  constructor
  · rintro ⟨hencoding, hbits, hchannels, hrate⟩
    exact ⟨h, hencoding, hbits, hchannels, hrate⟩
  · rintro ⟨-, hencoding, hbits, hchannels, hrate⟩
    exact ⟨hencoding, hbits, hchannels, hrate⟩

theorem fmtConstraints_eq_none {size : Nat} {behind : Bytes} :
    firstViolated (fmtConstraints size behind) = none ↔
      size + size % 2 ≤ behind.length ∧ ValidFmt (behind.take size) := by
  simp only [fmtConstraints, paddingConstraint, firstViolated_append, Option.or_eq_none_iff, firstViolated_cons_eq_none,
    firstViolated_nil, decide_eq_true_eq, and_true]
  constructor
  · rintro ⟨⟨⟨hsize, hpresent⟩, hfields⟩, hpadded⟩
    have hlength : (behind.take size).length = size := List.length_take_of_le hpresent
    exact ⟨hpadded, (fieldConstraints_eq_none (by omega)).1 hfields⟩
  · rintro ⟨hpadded, hvalid⟩
    have hlength : (behind.take size).length = size := List.length_take_of_le (by omega)
    have hsize := hvalid.length_le
    exact ⟨⟨⟨by omega, by omega⟩, (fieldConstraints_eq_none hsize).2 hvalid⟩, hpadded⟩

theorem otherConstraints_eq_none {size : Nat} {behind : Bytes} :
    firstViolated (otherConstraints size behind) = none ↔ size + size % 2 ≤ behind.length := by
  simp only [otherConstraints, paddingConstraint, firstViolated_cons_eq_none, firstViolated_nil, decide_eq_true_eq,
    and_true]
  omega

theorem chunkConstraints_eq_none {seen : Option Fmt} {bytes : Bytes} :
    firstViolated (chunkConstraints seen bytes) = none ↔
      8 ≤ bytes.length ∧
        if bytes.take 4 = ascii "data" then seen.isSome = true
        else numberAt bytes 4 4 + numberAt bytes 4 4 % 2 ≤ (bytes.drop 8).length ∧
          (bytes.take 4 = ascii "fmt " → ValidFmt ((bytes.drop 8).take (numberAt bytes 4 4))) := by
  have hdata : ascii "data" ≠ ascii "fmt " := by decide
  rw [chunkConstraints, firstViolated_cons_eq_none, decide_eq_true_eq]
  refine and_congr_right fun _ => ?_
  by_cases hname : bytes.take 4 = ascii "data"
  · rw [if_neg (hname ▸ hdata), if_pos hname, if_pos hname, firstViolated_cons_eq_none]
    exact and_iff_left rfl
  · rw [if_neg hname, if_neg hname]
    by_cases hfmt : bytes.take 4 = ascii "fmt "
    · rw [if_pos hfmt, fmtConstraints_eq_none]
      exact and_congr_right fun _ => ⟨fun h _ => h, fun h => h hfmt⟩
    · rw [if_neg hfmt, otherConstraints_eq_none]
      exact (and_iff_left fun h => absurd h hfmt).symm

theorem chunk_or_data {seen : Option Fmt} {bytes : Bytes} (h : firstViolated (chunkConstraints seen bytes) = none) :
    (∃ (c : Chunk) (rest : Bytes), c.Leads ∧ bytes = c.bytes ++ rest) ∨
      ∃ (fmt : Fmt) (size rest : Bytes), seen = some fmt ∧ size.length = 4 ∧ bytes = ascii "data" ++ size ++ rest := by
  obtain ⟨hlength, hbehind⟩ := chunkConstraints_eq_none.1 h
  split at hbehind
  · next hname =>
    right
    obtain ⟨fmt, hfmt⟩ := Option.isSome_iff_exists.1 hbehind
    refine ⟨fmt, (bytes.drop 4).take 4, (bytes.drop 4).drop 4, hfmt, ?_, ?_⟩
    · rw [List.length_take, List.length_drop]
      omega
    · rw [List.append_assoc, List.take_append_drop, ← hname, List.take_append_drop]
  · next hname =>
    left
    obtain ⟨hpresent, hvalid⟩ := hbehind
    obtain ⟨c, rest, rfl⟩ := Chunk.exists_of_long_enough hlength hpresent
    rw [c.take_name] at hname
    rw [c.take_name, c.numberAt_size, c.drop_header, List.take_left' rfl] at hvalid
    exact ⟨c, rest, ⟨hname, hvalid⟩, rfl⟩

/-! ## Every stream -/

/-- The beginning of a stream before any chunk. -/
def Lead.begin (size : Bytes) (h : size.length = 4) : Lead := ⟨size, [], h, by simp⟩

/-- The beginning of a stream up to the end of the next chunk. -/
def Lead.snoc (l : Lead) (c : Chunk) (h : c.Leads) : Lead :=
  { l with
    chunks := l.chunks ++ [c]
    leads := by
      intro c' hmem
      rcases List.mem_append.1 hmem with hmem | hmem
      · exact l.leads c' hmem
      · rwa [List.mem_singleton.1 hmem] }

theorem Lead.bytes_begin_append (size : Bytes) (h : size.length = 4) (rest : Bytes) :
    (begin size h).bytes ++ rest = ascii "RIFF" ++ (size ++ (ascii "WAVE" ++ rest)) := by
  simp [bytes, begin]

theorem Lead.length_bytes_begin (size : Bytes) (h : size.length = 4) : (begin size h).bytes.length = 12 := by
  simp only [bytes, begin, List.length_append, h]
  rfl

theorem Lead.bytes_snoc (l : Lead) (c : Chunk) (h : c.Leads) : (l.snoc c h).bytes = l.bytes ++ c.bytes := by
  simp [bytes, snoc]

theorem openingConstraints_eq_none {bytes : Bytes} :
    firstViolated (openingConstraints bytes) = none ↔
      ∃ (size rest : Bytes) (h : size.length = 4), bytes = (Lead.begin size h).bytes ++ rest := by
  simp only [openingConstraints, firstViolated_cons_eq_none, firstViolated_nil, decide_eq_true_eq, and_true,
    Lead.bytes_begin_append]
  constructor
  · rintro ⟨hlength, hriff, hwave⟩
    refine ⟨(bytes.drop 4).take 4, bytes.drop 12, ?_, ?_⟩
    · rw [List.length_take, List.length_drop]
      omega
    · rw [← hriff, ← hwave, List.drop_take]
      have hdrop : bytes.drop 12 = (bytes.drop 8).drop 4 := by rw [List.drop_drop]
      have hdrop' : bytes.drop 8 = (bytes.drop 4).drop 4 := by rw [List.drop_drop]
      rw [hdrop, List.take_append_drop, hdrop', List.take_append_drop, List.take_append_drop]
  · rintro ⟨size, rest, hsize, rfl⟩
    have hriff : (ascii "RIFF").length = 4 := by decide
    have hwave : (ascii "WAVE").length = 4 := by decide
    refine ⟨?_, List.take_left' hriff, ?_⟩
    · simp only [List.length_append, hriff, hwave, hsize]
      omega
    · rw [List.drop_take, ← List.append_assoc, List.drop_left' (by rw [List.length_append, hriff, hsize])]
      exact List.take_left' hwave

theorem opening_or_refusal_of_lead (lead : Lead) (rest : Bytes) :
    (∃ (o : Opening) (audio : Bytes), lead.bytes ++ rest = o.bytes ++ audio) ∨
      ∃ cause, Refusal (lead.bytes ++ rest) cause := by
  cases h : firstViolated (chunkConstraints (known lead.chunks) rest) with
  | some cause => exact .inr ⟨cause, .chunk lead rest rfl h⟩
  | none =>
    obtain ⟨c, behind, hleads, rfl⟩ | ⟨fmt, size, audio, hfmt, hsize, rfl⟩ := chunk_or_data h
    · have ih := opening_or_refusal_of_lead (lead.snoc c hleads) behind
      rwa [lead.bytes_snoc, List.append_assoc] at ih
    · exact .inl ⟨⟨lead, fmt, size, hfmt, hsize⟩, audio, by simp [Opening.bytes]⟩
termination_by rest.length
decreasing_by
  subst rest
  rw [List.length_append, c.length_bytes]
  omega

theorem opening_or_refusal (bytes : Bytes) :
    (∃ (o : Opening) (audio : Bytes), bytes = o.bytes ++ audio) ∨ ∃ cause, Refusal bytes cause := by
  cases h : firstViolated (openingConstraints bytes) with
  | some cause => exact .inr ⟨cause, .opening h⟩
  | none =>
    obtain ⟨size, rest, hsize, rfl⟩ := openingConstraints_eq_none.1 h
    exact opening_or_refusal_of_lead (Lead.begin size hsize) rest

end Playout.Wav
