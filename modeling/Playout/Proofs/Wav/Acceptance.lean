import Mathlib
import Playout.Proofs.Source.Bytes
import Playout.Proofs.Wav.Grammar
import Playout.Wav.Decoder

/-!
# Which streams a decoder accepts

On a clean delivery every part of the header reader answers for the bytes alone: it passes over what it read, or it
names the first constraint that these bytes violate (`verdict`). So the scan follows the grammar chunk by chunk
(`scanChunks_chunks`), and as every stream begins with an opening or is refused, the decoder stands behind the opening
or names the cause of the refusal.
-/

namespace Playout.Wav

open Source

variable {α : Type} {d : Delivery}

/-- The value where all constraints are met. -/
def verdict (constraints : List Constraint) (value : α) : Except PlaybackError α :=
  match firstViolated constraints with
  | some cause => .error (.format cause)
  | none => .ok value

@[simp] theorem verdict_nil (value : α) : verdict [] value = .ok value := rfl

@[simp] theorem verdict_cons (c : Constraint) (rest : List Constraint) (value : α) :
    verdict (c :: rest) value = if c.holds then verdict rest value else .error (.format c.cause) := by
  cases h : c.holds <;> simp [verdict, h]

theorem verdict_append (front back : List Constraint) (value : α) :
    verdict (front ++ back) value =
      match firstViolated front with
      | some cause => .error (.format cause)
      | none => verdict back value := by
  cases h : firstViolated front <;> simp [verdict, h]

theorem verdict_of_violated {constraints : List Constraint} {cause : FormatError}
    (h : firstViolated constraints = some cause) (value : α) : verdict constraints value = .error (.format cause) := by
  rw [verdict, h]

theorem verdict_of_none {constraints : List Constraint} (h : firstViolated constraints = none) (value : α) :
    verdict constraints value = .ok value := by
  rw [verdict, h]

/-! ## The parts of the reader -/

theorem readPart_of_clean (h : d.Clean) (n : Nat) : readPart d n = .ok (d.bytes.take n, d.past n) := by
  rw [readPart, Delivery.readFull_of_clean h]

theorem readExactly_of_clean (h : d.Clean) (n : Nat) (part : String) :
    readExactly d n part =
      if n ≤ d.bytes.length then .ok (d.bytes.take n, d.past n) else .error (.format (.truncated part)) := by
  rw [readExactly, readPart_of_clean h]
  by_cases hn : n ≤ d.bytes.length
  · have hlength : ¬ (d.bytes.take n).length < n := by rw [List.length_take]; omega
    rw [if_pos hn]
    exact if_neg hlength
  · have hlength : (d.bytes.take n).length < n := by rw [List.length_take]; omega
    rw [if_neg hn]
    exact if_pos hlength

theorem skip_of_clean (h : d.Clean) (n : Nat) (part : String) :
    skip d n part = if n ≤ d.bytes.length then .ok (d.past n) else .error (.format (.truncated part)) := by
  rw [skip, readExactly_of_clean h]
  by_cases hn : n ≤ d.bytes.length <;> simp [hn]

theorem skipPadding_of_clean (h : d.Clean) (size : Nat) :
    skipPadding d size =
      if size % 2 ≤ d.bytes.length then .ok (d.past (size % 2)) else .error (.format (.truncated "chunk padding")) := by
  obtain hodd | heven := (Nat.mod_two_eq_zero_or_one size).symm
  · rw [skipPadding, if_pos hodd, hodd, skip_of_clean h]
  · rw [skipPadding, if_neg (by omega), heven, if_pos (Nat.zero_le _), Delivery.past, Delivery.readFull]
    rfl

theorem skipChunk_of_clean (h : d.Clean) (size : Nat) :
    skipChunk d size = verdict (otherConstraints size d.bytes) ((d.past size).past (size % 2)) := by
  simp only [skipChunk, skip_of_clean h, otherConstraints, paddingConstraint, verdict_cons, verdict_nil,
    decide_eq_true_eq]
  by_cases hpresent : size ≤ d.bytes.length
  · rw [if_pos hpresent, if_pos hpresent]
    simp only [skipPadding_of_clean (h.past size), Delivery.bytes_past h, List.length_drop]
    exact if_congr (by omega) rfl rfl
  · rw [if_neg hpresent, if_neg hpresent]

theorem fieldConstraints_take {bytes : Bytes} {n : Nat} (h : 16 ≤ n) :
    fieldConstraints (bytes.take n) = fieldConstraints bytes := by
  simp only [fieldConstraints, numberAt_take (show 0 + 2 ≤ n by omega), numberAt_take (show 14 + 2 ≤ n by omega),
    numberAt_take (show 2 + 2 ≤ n by omega), numberAt_take (show 4 + 4 ≤ n by omega)]

theorem fmtOf_take {bytes : Bytes} {n : Nat} (h : 16 ≤ n) : fmtOf (bytes.take n) = fmtOf bytes := by
  rw [fmtOf, fmtOf, numberAt_take (by omega), numberAt_take (by omega)]

theorem checkFmt_eq {body : Bytes} (h : body.length = 16) :
    checkFmt body =
      match firstViolated (fieldConstraints body) with
      | some cause => .error cause
      | none => .ok (fmtOf body) := by
  match body, h with
  | [e0, e1, c0, c1, r0, r1, r2, r3, b0, b1, b2, b3, a0, a1, w0, w1], _ =>
    have hencoding : numberAt [e0, e1, c0, c1, r0, r1, r2, r3, b0, b1, b2, b3, a0, a1, w0, w1] 0 2 =
        (word e0 e1).toNat := (toNat_word e0 e1).symm
    have hchannels : numberAt [e0, e1, c0, c1, r0, r1, r2, r3, b0, b1, b2, b3, a0, a1, w0, w1] 2 2 =
        (word c0 c1).toNat := (toNat_word c0 c1).symm
    have hrate : numberAt [e0, e1, c0, c1, r0, r1, r2, r3, b0, b1, b2, b3, a0, a1, w0, w1] 4 4 =
        (long r0 r1 r2 r3).toNat := (toNat_long r0 r1 r2 r3).symm
    have hbits : numberAt [e0, e1, c0, c1, r0, r1, r2, r3, b0, b1, b2, b3, a0, a1, w0, w1] 14 2 = (word w0 w1).toNat :=
      (toNat_word w0 w1).symm
    have hone (w : UInt16) : w = 1 ↔ w.toNat = 1 := UInt16.toNat_inj.symm
    have htwo (w : UInt16) : w = 2 ↔ w.toNat = 2 := UInt16.toNat_inj.symm
    have hzero (l : UInt32) : l = 0 ↔ l.toNat = 0 := UInt32.toNat_inj.symm
    simp only [checkFmt, fieldConstraints, fmtOf, hencoding, hchannels, hrate, hbits, firstViolated_cons,
      firstViolated_nil, decide_eq_true_eq, UInt16.ofNat_toNat, UInt32.ofNat_toNat, ne_eq, hone, htwo, hzero]
    by_cases h₁ : (word e0 e1).toNat = 1
    case neg => simp [h₁]
    by_cases h₂ : (word w0 w1).toNat = bitsPerSample
    case neg => simp [h₁, h₂]
    by_cases h₃ : (word c0 c1).toNat = 1 ∨ (word c0 c1).toNat = 2
    case neg => simp [h₁, h₂, not_or.1 h₃]
    have h₃' : ¬ (¬ (word c0 c1).toNat = 1 ∧ ¬ (word c0 c1).toNat = 2) := by omega
    by_cases h₄ : (long r0 r1 r2 r3).toNat = 0 <;> simp [h₁, h₂, h₃, h₃', h₄]

theorem readFmt_of_clean (h : d.Clean) (size : Nat) :
    readFmt d size =
      verdict (fmtConstraints size d.bytes)
        (fmtOf (d.bytes.take size), ((d.past 16).past (size - 16)).past (size % 2)) := by
  have hclean : ((d.past 16).past (size - 16)).Clean := (h.past 16).past _
  have hlength : ((d.past 16).past (size - 16)).bytes.length = d.bytes.length - 16 - (size - 16) := by
    rw [Delivery.bytes_past (h.past 16), Delivery.bytes_past h, List.length_drop, List.length_drop]
  have hskip : skip (d.past 16) (size - 16) "fmt chunk" =
      if size - 16 ≤ d.bytes.length - 16 then .ok ((d.past 16).past (size - 16))
      else .error (.format (.truncated "fmt chunk")) := by
    rw [skip_of_clean (h.past 16), Delivery.bytes_past h, List.length_drop]
  rw [fmtConstraints, List.append_assoc, List.cons_append, List.cons_append, List.nil_append, verdict_cons,
    verdict_cons, verdict_append]
  simp only [decide_eq_true_eq, readFmt, readExactly_of_clean h]
  by_cases hsize : 16 ≤ size
  case neg => rw [if_neg hsize, if_pos (by omega)]
  rw [if_pos hsize, if_neg (by omega)]
  by_cases hpresent : size ≤ d.bytes.length
  case neg =>
    rw [if_neg hpresent]
    by_cases hfirst : 16 ≤ d.bytes.length
    · rw [if_pos hfirst]
      simp only [hskip]
      rw [if_neg (by omega)]
    · rw [if_neg hfirst]
  have hbody : (d.bytes.take 16).length = 16 := List.length_take_of_le (by omega)
  rw [if_pos hpresent, if_pos (by omega)]
  simp only [hskip]
  rw [if_pos (by omega)]
  simp only [checkFmt_eq hbody]
  rw [fieldConstraints_take (Nat.le_refl 16), fieldConstraints_take hsize, fmtOf_take (Nat.le_refl 16),
    fmtOf_take hsize]
  cases firstViolated (fieldConstraints d.bytes) with
  | some cause => rfl
  | none =>
    simp only [skipPadding_of_clean hclean, hlength, paddingConstraint, verdict_cons, verdict_nil, decide_eq_true_eq]
    by_cases hpadded : size + size % 2 ≤ d.bytes.length
    · rw [if_pos hpadded, if_pos (by omega)]
    · rw [if_neg hpadded, if_neg (by omega)]

/-! ## The scan -/

theorem scanChunks_of_short (h : d.Clean) (hshort : d.bytes.length < 8) (seen : Option Fmt) :
    scanChunks seen d = .error (missing seen) := by
  have hread := readPart_of_clean h 8
  rw [scanChunks]
  split
  · next heq => cases hread.symm.trans heq
  · next heq =>
    injection hread.symm.trans heq with heq
    have hlength := congrArg (fun r => r.1.length) heq
    simp only [List.length_take, List.length_cons, List.length_nil] at hlength
    omega
  · rfl

theorem exists_of_length_eight {bytes : Bytes} (h : bytes.length = 8) :
    ∃ i0 i1 i2 i3 z0 z1 z2 z3, bytes = [i0, i1, i2, i3, z0, z1, z2, z3] := by
  rcases bytes with _ | ⟨i0, _ | ⟨i1, _ | ⟨i2, _ | ⟨i3, _ | ⟨z0, _ | ⟨z1, _ | ⟨z2, _ | ⟨z3, _ | ⟨_, _⟩⟩⟩⟩⟩⟩⟩⟩⟩
  all_goals simp at h ⊢

theorem scanChunks_of_header (h : d.Clean) (hheader : 8 ≤ d.bytes.length) (seen : Option Fmt) :
    scanChunks seen d =
      if d.bytes.take 4 = ascii "fmt " then
        (readFmt (d.past 8) (numberAt d.bytes 4 4)).bind fun r => scanChunks (some r.1) r.2
      else if d.bytes.take 4 = ascii "data" then
        seen.elim (.error (missing none)) fun fmt =>
          .ok (⟨fmt.channels, fmt.sampleRate, .ofNat (numberAt d.bytes 4 4)⟩, d.past 8)
      else (skipChunk (d.past 8) (numberAt d.bytes 4 4)).bind (scanChunks seen) := by
  have hread := readPart_of_clean h 8
  rw [scanChunks]
  split
  · next heq => cases hread.symm.trans heq
  · next i0 i1 i2 i3 z0 z1 z2 z3 d1 heq =>
    injection hread.symm.trans heq with heq
    obtain ⟨hbytes, rfl⟩ := Prod.mk.inj heq
    have hname : d.bytes.take 4 = [i0, i1, i2, i3] := by
      have := congrArg (List.take 4) hbytes
      rwa [List.take_take] at this
    have hsize : numberAt d.bytes 4 4 = (long z0 z1 z2 z3).toNat := by
      rw [toNat_long, ← numberAt_take (Nat.le_refl 8), hbytes]
      rfl
    simp only [hname, hsize, UInt32.ofNat_toNat]
    split
    · split <;> next hfmt => rw [hfmt]; rfl
    · split
      · cases seen <;> rfl
      · split <;> next hskip => rw [hskip]; rfl
  · next hshort heq =>
    injection hread.symm.trans heq with heq
    subst heq
    have hlength : (d.bytes.take 8).length = 8 := List.length_take_of_le hheader
    obtain ⟨i0, i1, i2, i3, z0, z1, z2, z3, hbytes⟩ := exists_of_length_eight hlength
    exact absurd (by rw [hbytes]) (hshort i0 i1 i2 i3 z0 z1 z2 z3 (d.past 8))

theorem scanChunks_of_violated {seen : Option Fmt} {cause : FormatError} (h : d.Clean)
    (hcause : firstViolated (chunkConstraints seen d.bytes) = some cause) :
    scanChunks seen d = .error (.format cause) := by
  rw [chunkConstraints, firstViolated_cons] at hcause
  simp only [decide_eq_true_eq] at hcause
  by_cases hheader : 8 ≤ d.bytes.length
  case neg =>
    rw [if_neg hheader] at hcause
    cases hcause
    exact scanChunks_of_short h (by omega) seen
  rw [if_pos hheader] at hcause
  rw [scanChunks_of_header h hheader]
  by_cases hfmt : d.bytes.take 4 = ascii "fmt "
  · rw [if_pos hfmt] at hcause ⊢
    rw [readFmt_of_clean (h.past 8), Delivery.bytes_past h, verdict_of_violated hcause]
    rfl
  rw [if_neg hfmt] at hcause ⊢
  by_cases hname : d.bytes.take 4 = ascii "data"
  · rw [if_pos hname] at hcause ⊢
    cases seen with
    | none =>
      cases hcause
      rfl
    | some fmt => cases hcause
  · rw [if_neg hname] at hcause ⊢
    rw [skipChunk_of_clean (h.past 8), Delivery.bytes_past h, verdict_of_violated hcause]
    rfl

theorem scanChunks_of_data {fmt : Fmt} {size rest : Bytes} (h : d.Clean) (hsize : size.length = 4)
    (hbytes : d.bytes = ascii "data" ++ size ++ rest) :
    scanChunks (some fmt) d = .ok (⟨fmt.channels, fmt.sampleRate, .ofNat (number size)⟩, d.past 8) := by
  have hdata : ascii "data" ≠ ascii "fmt " := by decide
  have hlength : (ascii "data").length = 4 := by decide
  have hname : d.bytes.take 4 = ascii "data" := by rw [hbytes, List.append_assoc, List.take_left' hlength]
  have hnumber : numberAt d.bytes 4 4 = number size := by
    rw [hbytes, numberAt, List.append_assoc, List.drop_left' hlength, List.take_left' hsize]
  have hheader : 8 ≤ d.bytes.length := by
    simp only [hbytes, List.length_append, hlength, hsize]
    omega
  rw [scanChunks_of_header h hheader, if_neg (hname ▸ hdata), if_pos hname, hnumber]
  rfl

theorem scanChunks_of_chunk {c : Chunk} {rest : Bytes} (h : d.Clean) (hleads : c.Leads)
    (hbytes : d.bytes = c.bytes ++ rest) (seen : Option Fmt) :
    ∃ d', d'.Clean ∧ d'.bytes = rest ∧ scanChunks seen d = scanChunks (c.fmt.or seen) d' := by
  have hname : d.bytes.take 4 = c.name := by rw [hbytes, c.take_name]
  have hnumber : numberAt d.bytes 4 4 = c.body.length := by rw [hbytes, c.numberAt_size]
  have hbehind : (d.past 8).bytes = c.body ++ (c.pad ++ rest) := by rw [Delivery.bytes_past h, hbytes, c.drop_header]
  have hpresent : c.body.length + c.body.length % 2 ≤ (c.body ++ (c.pad ++ rest)).length := by
    simp only [List.length_append, c.length_pad]
    omega
  have hrest : (c.body ++ (c.pad ++ rest)).drop (c.body.length + c.body.length % 2) = rest := by
    rw [← List.drop_drop, List.drop_left' rfl, List.drop_left' c.length_pad]
  have hheader : 8 ≤ d.bytes.length := by
    rw [hbytes, List.length_append, c.length_bytes]
    omega
  rw [scanChunks_of_header h hheader, hname, hnumber]
  by_cases hfmt : c.name = ascii "fmt "
  · have hvalid := hleads.2 hfmt
    have hsize := hvalid.length_le
    have hmet : firstViolated (fmtConstraints c.body.length (d.past 8).bytes) = none := by
      rw [hbehind, fmtConstraints_eq_none, List.take_left' rfl]
      exact ⟨hpresent, hvalid⟩
    have hclean := (h.past 8).past 16
    refine ⟨_, (hclean.past (c.body.length - 16)).past (c.body.length % 2), ?_, ?_⟩
    · rw [Delivery.bytes_past (hclean.past _), Delivery.bytes_past hclean, Delivery.bytes_past (h.past 8), hbehind,
        List.drop_drop, List.drop_drop, ← Nat.add_assoc, Nat.add_sub_cancel' hsize, hrest]
    · rw [if_pos hfmt, readFmt_of_clean (h.past 8), verdict_of_none hmet, Chunk.fmt, if_pos hfmt, hbehind,
        List.take_left' rfl]
      rfl
  · have hmet : firstViolated (otherConstraints c.body.length (d.past 8).bytes) = none := by
      rw [hbehind, otherConstraints_eq_none]
      exact hpresent
    have hclean := h.past 8
    refine ⟨_, (hclean.past c.body.length).past (c.body.length % 2), ?_, ?_⟩
    · rw [Delivery.bytes_past (hclean.past _), Delivery.bytes_past hclean, hbehind, List.drop_drop, hrest]
    · rw [if_neg hfmt, if_neg hleads.1, skipChunk_of_clean hclean, verdict_of_none hmet, Chunk.fmt, if_neg hfmt]
      rfl

theorem scanChunks_of_chunks (chunks : List Chunk) {rest : Bytes} (h : d.Clean) (hleads : ∀ c ∈ chunks, c.Leads)
    (hbytes : d.bytes = chunks.flatMap Chunk.bytes ++ rest) (seen : Option Fmt) :
    ∃ d', d'.Clean ∧ d'.bytes = rest ∧ scanChunks seen d = scanChunks ((known chunks).or seen) d' := by
  induction chunks generalizing d seen with
  | nil => exact ⟨d, h, hbytes, rfl⟩
  | cons c chunks ih =>
    rw [List.flatMap_cons, List.append_assoc] at hbytes
    obtain ⟨d₁, hclean₁, hbytes₁, hscan₁⟩ := scanChunks_of_chunk h (hleads c List.mem_cons_self) hbytes seen
    obtain ⟨d', hclean, hrest, hscan⟩ :=
      ih hclean₁ (fun c hmem => hleads c (List.mem_cons_of_mem _ hmem)) hbytes₁ (c.fmt.or seen)
    have hknown : known (c :: chunks) = (known chunks).or c.fmt := by
      rw [← known_singleton, ← known_append]
      rfl
    exact ⟨d', hclean, hrest, by rw [hscan₁, hscan, hknown, Option.or_assoc]⟩

/-! ## The whole header -/

theorem readHeader_of_clean (h : d.Clean) :
    readHeader d =
      match firstViolated (openingConstraints d.bytes) with
      | some cause => .error (.format cause)
      | none => scanChunks none (d.past 12) := by
  have htake : (d.bytes.take 12).take 4 = d.bytes.take 4 := List.take_take
  simp only [readHeader, readExactly_of_clean h, openingConstraints, firstViolated_cons, firstViolated_nil,
    decide_eq_true_eq]
  by_cases hlength : 12 ≤ d.bytes.length
  case neg => simp [hlength]
  by_cases hriff : d.bytes.take 4 = ascii "RIFF"
  case neg => simp [hlength, htake, hriff]
  by_cases hwave : (d.bytes.take 12).drop 8 = ascii "WAVE" <;> simp [hlength, htake, hriff, hwave]

/-- Behind a lead the header reader scans on, and knows what the chunks of the lead say. -/
theorem readHeader_of_lead (h : d.Clean) (lead : Lead) {rest : Bytes} (hbytes : d.bytes = lead.bytes ++ rest) :
    ∃ d', d'.Clean ∧ d'.bytes = rest ∧ readHeader d = scanChunks (known lead.chunks) d' := by
  have hlead :
      d.bytes = (Lead.begin lead.size lead.length_size).bytes ++ (lead.chunks.flatMap Chunk.bytes ++ rest) := by
    rw [hbytes, Lead.bytes_begin_append, Lead.bytes]
    simp only [List.append_assoc]
  have hnone := openingConstraints_eq_none.2 ⟨_, _, lead.length_size, hlead⟩
  have hbehind : (d.past 12).bytes = lead.chunks.flatMap Chunk.bytes ++ rest := by
    rw [Delivery.bytes_past h, hlead, List.drop_left' (Lead.length_bytes_begin _ _)]
  obtain ⟨d', hclean, hrest, hscan⟩ := scanChunks_of_chunks lead.chunks (h.past 12) lead.leads hbehind none
  exact ⟨d', hclean, hrest, by rw [readHeader_of_clean h, hnone, hscan, Option.or_none]⟩

theorem readHeader_of_refusal {cause : FormatError} (h : d.Clean) (hrefusal : Refusal d.bytes cause) :
    readHeader d = .error (.format cause) := by
  cases hrefusal with
  | opening hcause => rw [readHeader_of_clean h, hcause]
  | chunk lead rest hbytes hcause =>
    obtain ⟨d', hclean, rfl, hread⟩ := readHeader_of_lead h lead hbytes
    rw [hread, scanChunks_of_violated hclean hcause]

theorem readHeader_of_opening (h : d.Clean) (o : Opening) {audio : Bytes} (hbytes : d.bytes = o.bytes ++ audio) :
    ∃ d', d'.Clean ∧ d'.bytes = audio ∧ readHeader d = .ok (o.format, d') := by
  have hlead : d.bytes = o.toLead.bytes ++ (ascii "data" ++ o.dataSize ++ audio) := by
    rw [hbytes, Opening.bytes, List.append_assoc]
  obtain ⟨d', hclean, hrest, hread⟩ := readHeader_of_lead h o.toLead hlead
  have hlength : (ascii "data" ++ o.dataSize).length = 8 := by
    rw [List.length_append, o.length_dataSize]
    rfl
  refine ⟨d'.past 8, hclean.past 8, ?_, ?_⟩
  · rw [Delivery.bytes_past hclean, hrest, List.drop_left' hlength]
  · rw [hread, o.known_chunks, scanChunks_of_data hclean o.length_dataSize hrest]
    rfl

namespace Decoder

theorem new_of_refusal {cause : FormatError} (h : d.Clean) (hrefusal : Refusal d.bytes cause) (readChunkBytes : Nat) :
    new d readChunkBytes = .error (.format cause) := by
  rw [new, readHeader_of_refusal h hrefusal]

theorem new_of_opening (h : d.Clean) (o : Opening) {audio : Bytes} (hbytes : d.bytes = o.bytes ++ audio)
    (readChunkBytes : Nat) :
    ∃ d', d'.Clean ∧ d'.bytes = audio ∧
      new d readChunkBytes =
        .ok ⟨d', o.format, o.format.dataBytes.toNat, bufferSize readChunkBytes o.format.frameBytes⟩ := by
  obtain ⟨d', hclean, hrest, hread⟩ := readHeader_of_opening h o hbytes
  exact ⟨d', hclean, hrest, by rw [new, hread]⟩

/-- On a clean delivery, in whatever pieces it comes, a decoder accepts exactly the streams that begin with an opening.
It has the parameters of that opening and stands behind it. On every other stream it names the first constraint
that the stream violates. -/
theorem new_accepts_openings (h : d.Clean) (readChunkBytes : Nat) :
    ((∃ w, new d readChunkBytes = .ok w) ↔ ∃ (o : Opening) (audio : Bytes), d.bytes = o.bytes ++ audio) ∧
    (∀ (o : Opening) (audio : Bytes), d.bytes = o.bytes ++ audio →
      ∃ w, new d readChunkBytes = .ok w ∧ w.format = o.format ∧ w.remaining = number o.dataSize ∧
        w.delivery.bytes = audio) ∧
    ∀ e, new d readChunkBytes = .error e ↔ ∃ cause, e = .format cause ∧ Refusal d.bytes cause := by
  refine ⟨⟨?_, ?_⟩, ?_, fun e => ⟨?_, ?_⟩⟩
  · rintro ⟨w, hw⟩
    obtain hopening | ⟨cause, hrefusal⟩ := opening_or_refusal d.bytes
    · exact hopening
    · cases hw.symm.trans (new_of_refusal h hrefusal readChunkBytes)
  · rintro ⟨o, audio, hbytes⟩
    obtain ⟨d', -, -, hnew⟩ := new_of_opening h o hbytes readChunkBytes
    exact ⟨_, hnew⟩
  · intro o audio hbytes
    obtain ⟨d', -, hrest, hnew⟩ := new_of_opening h o hbytes readChunkBytes
    exact ⟨_, hnew, rfl, o.toNat_dataBytes, hrest⟩
  · intro he
    obtain ⟨o, audio, hbytes⟩ | ⟨cause, hrefusal⟩ := opening_or_refusal d.bytes
    · obtain ⟨d', -, -, hnew⟩ := new_of_opening h o hbytes readChunkBytes
      cases he.symm.trans hnew
    · cases he.symm.trans (new_of_refusal h hrefusal readChunkBytes)
      exact ⟨cause, rfl, hrefusal⟩
  · rintro ⟨cause, rfl, hrefusal⟩
    exact new_of_refusal h hrefusal readChunkBytes

/-- A mono stream behind an odd chunk, cut inside a name, with an interruption between. -/
def paddedStream : List Arrival :=
  [.chunk (ascii "RIFF" ++ [0, 0, 0, 0] ++ ascii "WAVELIST" ++ [3, 0, 0, 0, 1, 2, 3, 0] ++ ascii "fm"),
    .fault ⟨"interrupted", true⟩,
    .chunk (ascii "t " ++ [16, 0, 0, 0, 1, 0, 1, 0, 64, 31, 0, 0, 128, 62, 0, 0, 2, 0, 16, 0] ++ ascii "data" ++
      [2, 0, 0, 0, 5, 6])]

theorem new_accepts_padded_chunk :
    ∃ w, new (.ofArrivals paddedStream) 4096 = .ok w ∧ w.format = ⟨1, 8000, 2⟩ ∧ w.remaining = 2 ∧
      w.delivery.bytes = [5, 6] := by
  have hclean : (Delivery.ofArrivals paddedStream).Clean := by
    intro arrival hmem
    fin_cases hmem <;> rfl
  let list : Chunk := ⟨ascii "LIST", [3, 0, 0, 0], [1, 2, 3], [0], rfl, rfl, rfl, rfl⟩
  let fmt : Chunk :=
    ⟨ascii "fmt ", [16, 0, 0, 0], [1, 0, 1, 0, 64, 31, 0, 0, 128, 62, 0, 0, 2, 0, 16, 0], [], rfl, rfl, rfl, rfl⟩
  have hlist : list.Leads := ⟨by decide, fun h => absurd h (by decide)⟩
  have hfmt : fmt.Leads := ⟨by decide, fun _ => ⟨by decide, by decide, by decide, by decide, by decide⟩⟩
  let opening : Opening :=
    { size := [0, 0, 0, 0]
      chunks := [list, fmt]
      length_size := rfl
      leads := List.forall_mem_cons.2 ⟨hlist, List.forall_mem_singleton.2 hfmt⟩
      fmt := ⟨1, 8000⟩
      dataSize := [2, 0, 0, 0]
      known_chunks := by decide
      length_dataSize := rfl }
  have hbytes : (Delivery.ofArrivals paddedStream).bytes = opening.bytes ++ [5, 6] := rfl
  exact (new_accepts_openings hclean 4096).2.1 opening [5, 6] hbytes

/-- The width of the samples is looked at before the channels and the rate, although it stands behind them. -/
theorem width_is_named_before_channels :
    ∃ (lead : Lead) (rest : Bytes),
      firstViolated (inStreamOrder (chunkConstraints (known lead.chunks) rest)) = some (.channels 3) ∧
        new (.ofArrivals [.chunk (lead.bytes ++ rest)]) 4096 = .error (.format (.bitDepth 24)) := by
  let lead := Lead.begin [0, 0, 0, 0] rfl
  let rest := ascii "fmt " ++ [16, 0, 0, 0, 1, 0, 3, 0, 64, 31, 0, 0, 192, 93, 0, 0, 3, 0, 24, 0]
  have hclean : (Delivery.ofArrivals [.chunk (lead.bytes ++ rest)]).Clean := by
    intro arrival hmem
    rw [List.mem_singleton.1 hmem]
    rfl
  have hbytes : (Delivery.ofArrivals [.chunk (lead.bytes ++ rest)]).bytes = lead.bytes ++ rest := by decide
  exact ⟨lead, rest, by decide, new_of_refusal hclean (.chunk lead rest hbytes (by decide)) 4096⟩

end Decoder

end Playout.Wav
