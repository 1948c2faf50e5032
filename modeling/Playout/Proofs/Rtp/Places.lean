import Mathlib
import Playout.Proofs.Rtp.Layout

/-!
# Reading a datagram by its places

A reader that looks a datagram up place by place can ask for a place that is not there, and can cut out a stretch that
does not lie in the datagram. Here every such access can fail (`parseByPlace`); none does, whatever the datagram
(`parseByPlace_eq`).
-/

namespace Playout.Rtp

/-- A reader that may refuse the datagram, and gives nothing once an access fails. -/
abbrev Lookup := ExceptT ParseError Option

def byteAt (data : Bytes) (place : Nat) : Lookup UInt8 := liftM data[place]?

def placeBefore (place distance : Nat) : Lookup Nat :=
  liftM (if distance ≤ place then some (place - distance) else none)

/-- The bytes from one place up to another. -/
def slice (data : Bytes) (start stop : Nat) : Lookup Bytes :=
  liftM (if start ≤ stop ∧ stop ≤ data.length then some ((data.take stop).drop start) else none)

def headerEnd (data : Bytes) (flags : UInt8) : Lookup Nat := do
  let offset := 12 + 4 * (flags &&& 0x0f).toNat
  if flags &&& 0x10 ≠ 0 then
    if data.length < offset + 4 then throw .truncatedExtension
    let words := wordOfBytes (← byteAt data (offset + 2)) (← byteAt data (offset + 3))
    return offset + 4 + 4 * words.toNat
  else return offset

def payloadEnd (data : Bytes) (flags : UInt8) (offset : Nat) : Lookup Nat := do
  if flags &&& 0x20 ≠ 0 then
    let padding ← byteAt data (← placeBefore data.length 1)
    if padding.toNat = 0 ∨ data.length < offset + padding.toNat then throw (.padding padding.toNat)
    placeBefore data.length padding.toNat
  else return data.length

def parseByPlace (data : Bytes) : Lookup Packet := do
  if data.length < 12 then throw (.tooSmall data.length)
  let flags ← byteAt data 0
  if flags >>> 6 ≠ version then throw (.wrongVersion (flags >>> 6).toNat)
  let kind ← byteAt data 1
  let sequence := wordOfBytes (← byteAt data 2) (← byteAt data 3)
  let timestamp := longOfBytes (← byteAt data 4) (← byteAt data 5) (← byteAt data 6) (← byteAt data 7)
  let ssrc := longOfBytes (← byteAt data 8) (← byteAt data 9) (← byteAt data 10) (← byteAt data 11)
  let offset ← headerEnd data flags
  if data.length < offset then throw (.truncatedHeader data.length offset)
  let stop ← payloadEnd data flags offset
  return ⟨kind &&& 0x80 ≠ 0, kind &&& 0x7f, sequence, timestamp, ssrc, ← slice data offset stop⟩

variable {b last : UInt8} {data rest : Bytes} {offset start stop place : Nat}

theorem byteAt_of_drop (h : data.drop place = b :: rest) : byteAt data place = pure b := by
  have hat : data[place]? = some b := by rw [← List.head?_drop, h, List.head?_cons]
  rw [byteAt, hat]
  rfl

theorem placeBefore_of_le {distance : Nat} (h : distance ≤ place) :
    placeBefore place distance = pure (place - distance) := by
  rw [placeBefore, if_pos h]
  rfl

theorem slice_of_le (hstart : start ≤ stop) (hstop : stop ≤ data.length) :
    slice data start stop = pure ((data.take stop).drop start) := by
  rw [slice, if_pos ⟨hstart, hstop⟩]
  rfl

/-- The end of the header is found where skipping the header ends, and what is behind it is the rest of the datagram. -/
theorem headerEnd_cases (b : UInt8) (data : Bytes) :
    (∃ cause, skipHeader b (data.drop 12) = throw cause ∧ headerEnd data b = throw cause) ∨
      ∃ offset, skipHeader b (data.drop 12) = pure (offset, data.drop offset) ∧ headerEnd data b = pure offset := by
  simp only [skipHeader, headerEnd, List.drop_drop]
  generalize 12 + 4 * (b &&& 0x0f).toNat = offset
  split
  next =>
    by_cases hshort : data.length < offset + 4
    · left
      rw [if_pos hshort]
      refine ⟨.truncatedExtension, ?_, rfl⟩
      unfold skipExtension
      split
      next hdrop =>
        have hlength := congrArg List.length hdrop
        simp only [List.length_drop, List.length_cons] at hlength
        omega
      next => rfl
    · right
      rw [if_neg hshort]
      have hlength : 4 ≤ (data.drop offset).length := by
        rw [List.length_drop]
        omega
      obtain ⟨x1, x0, w1, w0, body, hdrop⟩ := exists_four hlength
      have hbehind : ∀ k, data.drop (offset + k) = (x1 :: x0 :: w1 :: w0 :: body).drop k := by
        intro k
        rw [← hdrop, List.drop_drop]
      refine ⟨offset + 4 + 4 * (wordOfBytes w1 w0).toNat, ?_, ?_⟩
      · rw [hdrop, skipExtension, ← List.drop_drop, hbehind 4]
        rfl
      · rw [byteAt_of_drop (hbehind 2), byteAt_of_drop (hbehind 3)]
        rfl
  next => exact .inr ⟨offset, rfl, rfl⟩

theorem payloadEnd_cases (b : UInt8) (hsome : data ≠ []) (hoffset : offset ≤ data.length) :
    (∃ cause, payloadOf b (data.getLastD 0) (data.drop offset) = throw cause ∧ payloadEnd data b offset = throw cause) ∨
      ∃ stop payload, payloadOf b (data.getLastD 0) (data.drop offset) = pure payload ∧
        payloadEnd data b offset = pure stop ∧ slice data offset stop = pure payload := by
  unfold payloadOf payloadEnd
  split
  next =>
    have hpos := List.length_pos_iff.2 hsome
    have hlast : data.drop (data.length - 1) = [data.getLastD 0] := by
      rw [List.drop_length_sub_one hsome, List.getLastD_eq_getLast?, List.getLast?_eq_getLast_of_ne_nil hsome]
      rfl
    rw [placeBefore_of_le hpos]
    simp only [pure_bind, byteAt_of_drop hlast, stripPadding, List.length_drop]
    generalize (data.getLastD 0).toNat = padding
    by_cases hbad : padding = 0 ∨ data.length < offset + padding
    · have hbad' : padding = 0 ∨ data.length - offset < padding := hbad.imp_right (by omega)
      rw [if_pos hbad, if_pos hbad']
      exact .inl ⟨_, rfl, rfl⟩
    · have hbad' : ¬(padding = 0 ∨ data.length - offset < padding) := by omega
      have hstop : offset ≤ data.length - padding := by omega
      rw [if_neg hbad, if_neg hbad', placeBefore_of_le (by omega)]
      refine .inr ⟨_, _, rfl, rfl, ?_⟩
      rw [slice_of_le hstop (Nat.sub_le _ _), List.drop_take]
      congr 2
      omega
  next =>
    refine .inr ⟨data.length, data.drop offset, rfl, rfl, ?_⟩
    rw [slice_of_le hoffset le_rfl, List.take_length]

/-- No access fails. -/
theorem parseByPlace_eq (data : Bytes) : (parseByPlace data).run = some (parse data) := by
  by_cases hshort : data.length < 12
  · rw [parse_of_short hshort, parseByPlace, if_pos hshort]
    rfl
  obtain ⟨b0, b1, s1, s0, t3, t2, t1, t0, c3, c2, c1, c0, rest, hdata⟩ := exists_header (Nat.not_lt.1 hshort)
  -- the fixed part of the header is there, so the places in it come to its bytes
  have hplace : parseByPlace data = do
      if b0 >>> 6 ≠ version then throw (.wrongVersion (b0 >>> 6).toNat)
      let offset ← headerEnd data b0
      if data.length < offset then throw (.truncatedHeader data.length offset)
      let stop ← payloadEnd data b0 offset
      return ⟨b1 &&& 0x80 ≠ 0, b1 &&& 0x7f, wordOfBytes s1 s0, longOfBytes t3 t2 t1 t0, longOfBytes c3 c2 c1 c0,
        ← slice data offset stop⟩ := by
    rw [parseByPlace, if_neg hshort]
    subst hdata
    rfl
  have hrest : rest = data.drop 12 := by
    subst hdata
    rfl
  rw [hplace, parse_eq hdata, hrest]
  by_cases hversion : b0 >>> 6 = version
  · simp only [hversion, ne_eq, not_true_eq_false, if_false]
    obtain ⟨cause, hskip, hend⟩ | ⟨offset, hskip, hend⟩ := headerEnd_cases b0 data
    · rw [hskip, hend]
      rfl
    · rw [hskip, hend]
      simp only [pure_bind]
      by_cases hoffset : data.length < offset
      · simp only [if_pos hoffset]
        rfl
      · simp only [if_neg hoffset]
        have hsome : data ≠ [] := by
          rw [hdata]
          exact List.cons_ne_nil _ _
        obtain ⟨cause, hpayload, hstop⟩ | ⟨stop, payload, hpayload, hstop, hslice⟩ :=
          payloadEnd_cases b0 hsome (Nat.not_lt.1 hoffset)
        · rw [hpayload, hstop]
          rfl
        · rw [hpayload, hstop]
          simp only [pure_bind]
          rw [hslice]
          rfl
  · simp only [hversion, ne_eq, not_false_eq_true, if_true]
    rfl

/-- **What is laid out as a packet is read, and nothing else.** A datagram is read as a packet just where a layout gives
the datagram and holds the packet. Reading by places comes to the same, and never looks where there is nothing. -/
theorem accepts_layouts (data : Bytes) :
    (parseByPlace data).run = some (parse data) ∧
      ∀ p, parse data = .ok p ↔ ∃ l : Layout, l.bytes = data ∧ l.packet = p := by
  refine ⟨parseByPlace_eq data, fun p => ⟨layout_of_parse, ?_⟩⟩
  rintro ⟨l, rfl, rfl⟩
  exact parse_bytes l

end Playout.Rtp
