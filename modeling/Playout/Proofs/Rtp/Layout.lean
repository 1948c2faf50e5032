import Mathlib
import Playout.Proofs.Rtp.Octets

/-!
# What an RTP packet is

The layout of a packet, said without reading it: a header of twelve octets, the contributing sources, an extension
where there is one, the payload, and padding where there is some (`Layout`). What is laid out like that is read, as what
the layout holds (`parse_bytes`), and nothing else is (`layout_of_parse`). A packet is written as the layout that has no
optional part, so it can be had back (`parse_serialize`).
-/

namespace Playout.Rtp

/-- The extension of a header: two octets that a profile defines, the number of the words behind them, these words. -/
structure Extension where
  profile : Bytes
  words : UInt16
  content : Bytes
  length_profile : profile.length = 2
  length_content : content.length = 4 * words.toNat

def Extension.bytes (e : Extension) : Bytes := e.profile ++ octets 2 e.words.toNat ++ e.content

/-- Padding: any octets, and one more that holds the number of them all. -/
structure Padding where
  fill : Bytes
  length_lt : fill.length + 1 < 256

def Padding.bytes (q : Padding) : Bytes := q.fill ++ octets 1 (q.fill.length + 1)

structure Layout where
  marker : Bool
  payloadType : UInt8
  sequence : UInt16
  timestamp : UInt32
  ssrc : UInt32
  sources : List UInt32
  extension : Option Extension
  payload : Bytes
  padding : Option Padding
  payloadType_lt : payloadType.toNat < 128
  length_sources : sources.length < 16

namespace Layout

/-- The first octet: the version in two bits, a bit each for padding and extension, and the number of the sources. -/
def first (l : Layout) : Nat := 64 * 2 + 32 * l.padding.isSome.toNat + 16 * l.extension.isSome.toNat + l.sources.length

/-- The second octet: the marker above the payload type. -/
def second (l : Layout) : Nat := 128 * l.marker.toNat + l.payloadType.toNat

def tail (l : Layout) : Bytes := l.payload ++ l.padding.elim [] Padding.bytes

/-- Everything behind the fixed part of the header. -/
def behind (l : Layout) : Bytes :=
  l.sources.flatMap (octets 4 ·.toNat) ++ (l.extension.elim [] Extension.bytes ++ l.tail)

def bytes (l : Layout) : Bytes :=
  octets 1 l.first ++ octets 1 l.second ++ octets 2 l.sequence.toNat ++ octets 4 l.timestamp.toNat ++
    octets 4 l.ssrc.toNat ++ l.behind

/-- What the datagram says, without the optional parts. -/
def packet (l : Layout) : Packet := ⟨l.marker, l.payloadType, l.sequence, l.timestamp, l.ssrc, l.payload⟩

end Layout

variable {b b0 b1 s1 s0 t3 t2 t1 t0 c3 c2 c1 c0 last : UInt8} {data rest body payload : Bytes} {offset : Nat}

/-! ## The fields of an octet -/

theorem toNat_eq_fields (b : UInt8) :
    b.toNat = 64 * (b >>> 6).toNat + 32 * (decide (b &&& 0x20 ≠ 0)).toNat + 16 * (decide (b &&& 0x10 ≠ 0)).toNat +
      (b &&& 0x0f).toNat := by
  revert b
  decide +kernel

theorem count_lt (b : UInt8) : (b &&& 0x0f).toNat < 16 := by
  revert b
  decide +kernel

theorem fields_of_toNat {version count : Nat} {padded extended : Bool} (hcount : count < 16)
    (h : b.toNat = 64 * version + 32 * padded.toNat + 16 * extended.toNat + count) :
    (b >>> 6).toNat = version ∧ (decide (b &&& 0x20 ≠ 0)) = padded ∧ (decide (b &&& 0x10 ≠ 0)) = extended ∧
      (b &&& 0x0f).toNat = count := by
  -- each field lies below the weight of the next, so the sum tells them apart
  have hfields := toNat_eq_fields b
  have hlt := count_lt b
  generalize decide (b &&& 0x20 ≠ 0) = padded' at *
  generalize decide (b &&& 0x10 ≠ 0) = extended' at *
  cases padded <;> cases padded' <;> cases extended <;> cases extended' <;> simp at * <;> omega

theorem toNat_eq_kind (b : UInt8) : b.toNat = 128 * (decide (b &&& 0x80 ≠ 0)).toNat + (b &&& 0x7f).toNat := by
  revert b
  decide +kernel

theorem type_lt (b : UInt8) : (b &&& 0x7f).toNat < 128 := by
  revert b
  decide +kernel

theorem kind_of_toNat {kind : Nat} {marked : Bool} (hkind : kind < 128) (h : b.toNat = 128 * marked.toNat + kind) :
    (decide (b &&& 0x80 ≠ 0)) = marked ∧ (b &&& 0x7f).toNat = kind := by
  have hfields := toNat_eq_kind b
  have hlt := type_lt b
  generalize decide (b &&& 0x80 ≠ 0) = marked' at *
  cases marked <;> cases marked' <;> simp at * <;> omega

/-! ## The extension -/

theorem skipExtension_bytes (offset : Nat) (e : Extension) (rest : Bytes) :
    skipExtension offset (e.bytes ++ rest) = .ok (offset + e.bytes.length, rest) := by
  obtain ⟨x1, x0, hprofile⟩ := List.length_eq_two.1 e.length_profile
  obtain ⟨w1, w0, hwords⟩ := List.length_eq_two.1 (length_octets 2 e.words.toNat)
  have hlength : e.bytes.length = 4 + 4 * e.words.toNat := by
    simp only [Extension.bytes, List.length_append, e.length_profile, length_octets, e.length_content]
  have hbytes : e.bytes ++ rest = x1 :: x0 :: w1 :: w0 :: (e.content ++ rest) := by
    simp [Extension.bytes, hprofile, hwords]
  rw [hlength, hbytes, skipExtension, wordOfBytes_of_octets hwords]
  simp only [List.drop_left' e.length_content, Nat.add_assoc]

theorem extension_of_skipExtension {stop : Nat} (h : skipExtension offset rest = .ok (stop, body))
    (hstop : stop ≤ offset + rest.length) : ∃ e : Extension, rest = e.bytes ++ body := by
  unfold skipExtension at h
  split at h
  next x1 x0 w1 w0 behind =>
    simp only [Except.ok.injEq, Prod.mk.injEq] at h
    obtain ⟨rfl, rfl⟩ := h
    simp only [List.length_cons] at hstop
    have hcontent : (behind.take (4 * (wordOfBytes w1 w0).toNat)).length = 4 * (wordOfBytes w1 w0).toNat := by
      rw [List.length_take]
      omega
    refine ⟨⟨[x1, x0], wordOfBytes w1 w0, _, rfl, hcontent⟩, ?_⟩
    simp [Extension.bytes, octets_wordOfBytes]
  next => cases h

/-! ## The padding -/

theorem stripPadding_bytes (payload : Bytes) (q : Padding) (hlast : last.toNat = q.fill.length + 1) :
    stripPadding last (payload ++ q.bytes) = .ok payload := by
  have hlength : q.bytes.length = last.toNat := by
    rw [Padding.bytes, List.length_append, length_octets, hlast]
  rw [stripPadding, if_neg]
  · rw [List.length_append, hlength, Nat.add_sub_cancel, List.take_left]
  · rw [List.length_append, hlength]
    omega

theorem padding_of_stripPadding (h : stripPadding last body = .ok payload)
    (hlast : body ≠ [] → body.getLastD 0 = last) : ∃ q : Padding, body = payload ++ q.bytes := by
  simp only [stripPadding] at h
  split at h
  next => cases h
  next hlength =>
    obtain ⟨hpos, hle⟩ := not_or.1 hlength
    simp only [Except.ok.injEq] at h
    obtain ⟨front, b, rfl⟩ := List.eq_nil_or_concat' body |>.resolve_left (by rintro rfl; simp at hle; omega)
    obtain rfl : b = last := by simpa using hlast (by simp)
    simp only [List.length_append, List.length_singleton] at hle h
    have hfill : (front.drop (front.length + 1 - b.toNat)).length + 1 = b.toNat := by
      rw [List.length_drop]
      omega
    have htake : payload = front.take (front.length + 1 - b.toNat) := by
      rw [← h, List.take_append_of_le_length (by omega)]
    have hcount : octets 1 ((front.drop (front.length + 1 - b.toNat)).length + 1) = [b] := by rw [hfill, octets_one]
    refine ⟨⟨_, hfill ▸ b.toNat_lt⟩, ?_⟩
    simp only [Padding.bytes]
    rw [hcount, htake, ← List.append_assoc, List.take_append_drop]

/-! ## The header and the payload -/

namespace Layout

variable (l : Layout)

theorem skipHeader_behind (h : b0.toNat = l.first) :
    ∃ offset, skipHeader b0 l.behind = .ok (offset, l.tail) ∧ offset + l.tail.length = 12 + l.behind.length := by
  obtain ⟨-, -, hextended, hcount⟩ := fields_of_toNat l.length_sources h
  have hsources : (l.sources.flatMap (octets 4 ·.toNat)).length = 4 * l.sources.length := by
    simp [List.length_flatMap, Nat.mul_comm]
  simp only [skipHeader, hcount, behind, List.drop_left' hsources, List.length_append, hsources]
  cases hextension : l.extension with
  | none =>
    rw [hextension, Option.isSome_none, decide_eq_false_iff_not] at hextended
    rw [if_neg hextended]
    refine ⟨_, rfl, ?_⟩
    simp only [Option.elim_none, List.length_nil]
    omega
  | some e =>
    rw [hextension, Option.isSome_some, decide_eq_true_eq] at hextended
    rw [if_pos hextended, Option.elim_some, skipExtension_bytes]
    refine ⟨_, rfl, ?_⟩
    omega

theorem payloadOf_tail (h : b0.toNat = l.first) (hlast : l.tail ≠ [] → l.tail.getLastD 0 = last) :
    payloadOf b0 last l.tail = .ok l.payload := by
  obtain ⟨-, hpadded, -, -⟩ := fields_of_toNat l.length_sources h
  unfold payloadOf
  cases hpadding : l.padding with
  | none =>
    rw [hpadding, Option.isSome_none, decide_eq_false_iff_not] at hpadded
    rw [if_neg hpadded, tail, hpadding, Option.elim_none, List.append_nil]
  | some q =>
    rw [hpadding, Option.isSome_some, decide_eq_true_eq] at hpadded
    obtain ⟨b, hb, hnat⟩ := octets_one_of_lt q.length_lt
    have htail : l.tail = l.payload ++ q.bytes := by rw [tail, hpadding, Option.elim_some]
    obtain rfl : b = last := by
      rw [htail, Padding.bytes, hb] at hlast
      simpa using hlast (by simp)
    rw [if_pos hpadded, htail, stripPadding_bytes l.payload q hnat]

end Layout

theorem behind_of_skipHeader (h : skipHeader b rest = .ok (offset, body)) (hoffset : offset ≤ 12 + rest.length) :
    ∃ (sources : List UInt32) (extension : Option Extension), sources.length = (b &&& 0x0f).toNat ∧
      extension.isSome = decide (b &&& 0x10 ≠ 0) ∧
      rest = sources.flatMap (octets 4 ·.toNat) ++ (extension.elim [] Extension.bytes ++ body) := by
  simp only [skipHeader] at h
  have hsources : 4 * (b &&& 0x0f).toNat ≤ rest.length → ∃ sources : List UInt32, sources.length = (b &&& 0x0f).toNat ∧
      rest = sources.flatMap (octets 4 ·.toNat) ++ rest.drop (4 * (b &&& 0x0f).toNat) := by
    intro hle
    obtain ⟨sources, hcount, hbytes⟩ := exists_longs _ (List.length_take_of_le hle)
    exact ⟨sources, hcount, by rw [hbytes, List.take_append_drop]⟩
  split at h
  next hextended =>
    -- without all sources there is nothing that could be an extension
    have hle : 4 * (b &&& 0x0f).toNat ≤ rest.length := by
      by_contra hlt
      rw [List.drop_eq_nil_of_le (by omega)] at h
      cases h
    obtain ⟨sources, hcount, hrest⟩ := hsources hle
    obtain ⟨e, hdrop⟩ := extension_of_skipExtension h (by rw [List.length_drop]; omega)
    rw [hdrop] at hrest
    exact ⟨sources, some e, hcount, (decide_eq_true hextended).symm, hrest⟩
  next hextended =>
    simp only [Except.ok.injEq, Prod.mk.injEq] at h
    obtain ⟨rfl, rfl⟩ := h
    obtain ⟨sources, hcount, hrest⟩ := hsources (by omega)
    exact ⟨sources, none, hcount, (decide_eq_false hextended).symm, hrest⟩

theorem tail_of_payloadOf (h : payloadOf b last body = .ok payload) (hlast : body ≠ [] → body.getLastD 0 = last) :
    ∃ padding : Option Padding, padding.isSome = decide (b &&& 0x20 ≠ 0) ∧
      body = payload ++ padding.elim [] Padding.bytes := by
  unfold payloadOf at h
  split at h
  next hpadded =>
    obtain ⟨q, hbody⟩ := padding_of_stripPadding h hlast
    exact ⟨some q, (decide_eq_true hpadded).symm, hbody⟩
  next hpadded =>
    simp only [Except.ok.injEq] at h
    exact ⟨none, (decide_eq_false hpadded).symm, by rw [h, Option.elim_none, List.append_nil]⟩

/-! ## Datagrams -/

theorem parse_eq (hdata : data = b0 :: b1 :: s1 :: s0 :: t3 :: t2 :: t1 :: t0 :: c3 :: c2 :: c1 :: c0 :: rest) :
    parse data = do
      if b0 >>> 6 ≠ version then throw (.wrongVersion (b0 >>> 6).toNat)
      let (offset, body) ← skipHeader b0 rest
      if data.length < offset then throw (.truncatedHeader data.length offset)
      let payload ← payloadOf b0 (data.getLastD 0) body
      return ⟨b1 &&& 0x80 ≠ 0, b1 &&& 0x7f, wordOfBytes s1 s0, longOfBytes t3 t2 t1 t0, longOfBytes c3 c2 c1 c0,
        payload⟩ := by
  subst hdata
  rfl

theorem parse_eq_ok_iff {p : Packet}
    (hdata : data = b0 :: b1 :: s1 :: s0 :: t3 :: t2 :: t1 :: t0 :: c3 :: c2 :: c1 :: c0 :: rest) :
    parse data = .ok p ↔ b0 >>> 6 = version ∧ ∃ offset body payload, skipHeader b0 rest = .ok (offset, body) ∧
      offset ≤ data.length ∧ payloadOf b0 (data.getLastD 0) body = .ok payload ∧
      p = ⟨b1 &&& 0x80 ≠ 0, b1 &&& 0x7f, wordOfBytes s1 s0, longOfBytes t3 t2 t1 t0, longOfBytes c3 c2 c1 c0,
        payload⟩ := by
  rw [parse_eq hdata]
  generalize data.length = size
  generalize data.getLastD 0 = last
  by_cases hv : b0 >>> 6 = version
  · cases hh : skipHeader b0 rest with
    | error cause => simp [hv, bind, Except.bind]
    | ok found =>
      obtain ⟨offset, body⟩ := found
      by_cases ho : size < offset
      · have hnot : ¬offset ≤ size := Nat.not_le.2 ho
        simp [hv, ho, hnot, bind, Except.bind, throw, throwThe, MonadExceptOf.throw]
      · have hle : offset ≤ size := Nat.not_lt.1 ho
        cases hp : payloadOf b0 last body with
        | error cause => simp [hv, ho, hp, bind, Except.bind]
        | ok payload => simp [hv, ho, hle, hp, bind, Except.bind, pure, Except.pure, eq_comm]
  · simp [hv, bind, Except.bind, throw, throwThe, MonadExceptOf.throw]

theorem parse_of_short (h : data.length < 12) : parse data = .error (.tooSmall data.length) := by
  unfold parse
  split
  next =>
    simp only [List.length_cons] at h
    omega
  next => rfl

theorem exists_header (h : 12 ≤ data.length) : ∃ b0 b1 s1 s0 t3 t2 t1 t0 c3 c2 c1 c0 rest,
    data = b0 :: b1 :: s1 :: s0 :: t3 :: t2 :: t1 :: t0 :: c3 :: c2 :: c1 :: c0 :: rest := by
  obtain ⟨b0, b1, s1, s0, rest, rfl⟩ := exists_four (Nat.le_trans (by decide) h)
  simp only [List.length_cons, Nat.reduceLeDiff] at h
  obtain ⟨t3, t2, t1, t0, rest, rfl⟩ := exists_four (Nat.le_trans (by decide) h)
  simp only [List.length_cons, Nat.reduceLeDiff] at h
  obtain ⟨c3, c2, c1, c0, rest, rfl⟩ := exists_four h
  exact ⟨b0, b1, s1, s0, t3, t2, t1, t0, c3, c2, c1, c0, rest, rfl⟩

theorem getLastD_append (front : Bytes) (h : body ≠ []) : body.getLastD 0 = (front ++ body).getLastD 0 := by
  rw [List.getLastD_eq_getLast?, List.getLastD_eq_getLast?, List.getLast?_append_of_ne_nil front h]

theorem first_lt (l : Layout) : l.first < 256 := by
  have hcount := l.length_sources
  have hpadded := Bool.toNat_le l.padding.isSome
  have hextended := Bool.toNat_le l.extension.isSome
  unfold Layout.first
  omega

theorem second_lt (l : Layout) : l.second < 256 := by
  have htype := l.payloadType_lt
  have hmarked := Bool.toNat_le l.marker
  unfold Layout.second
  omega

/-- Every layout is read as its packet. -/
theorem parse_bytes (l : Layout) : parse l.bytes = .ok l.packet := by
  obtain ⟨b0, h0, hfirst⟩ := octets_one_of_lt (first_lt l)
  obtain ⟨b1, h1, hsecond⟩ := octets_one_of_lt (second_lt l)
  obtain ⟨s1, s0, hs⟩ : ∃ s1 s0, octets 2 l.sequence.toNat = [s1, s0] := ⟨_, _, rfl⟩
  obtain ⟨t3, t2, t1, t0, ht⟩ : ∃ t3 t2 t1 t0, octets 4 l.timestamp.toNat = [t3, t2, t1, t0] := ⟨_, _, _, _, rfl⟩
  obtain ⟨c3, c2, c1, c0, hc⟩ : ∃ c3 c2 c1 c0, octets 4 l.ssrc.toNat = [c3, c2, c1, c0] := ⟨_, _, _, _, rfl⟩
  have hdata : l.bytes = b0 :: b1 :: s1 :: s0 :: t3 :: t2 :: t1 :: t0 :: c3 :: c2 :: c1 :: c0 :: l.behind := by
    rw [Layout.bytes, h0, h1, hs, ht, hc]
    rfl
  obtain ⟨offset, hskip, hoffset⟩ := l.skipHeader_behind hfirst
  obtain ⟨hversion, -, -, -⟩ := fields_of_toNat l.length_sources hfirst
  obtain ⟨hmarker, htype⟩ := kind_of_toNat l.payloadType_lt hsecond
  refine (parse_eq_ok_iff hdata).2 ⟨UInt8.toNat_inj.1 hversion, offset, l.tail, l.payload, hskip, ?_, ?_, ?_⟩
  · simp only [hdata, List.length_cons]
    omega
  · apply l.payloadOf_tail hfirst
    intro hne
    rw [Layout.bytes, Layout.behind, ← List.append_assoc, ← List.append_assoc]
    exact getLastD_append _ hne
  · rw [wordOfBytes_of_octets hs, longOfBytes_of_octets ht, longOfBytes_of_octets hc, hmarker, UInt8.toNat_inj.1 htype]
    rfl

theorem layout_of_parse {p : Packet} (h : parse data = .ok p) : ∃ l : Layout, l.bytes = data ∧ l.packet = p := by
  have hlong : 12 ≤ data.length := by
    by_contra hshort
    rw [parse_of_short (Nat.lt_of_not_le hshort)] at h
    cases h
  obtain ⟨b0, b1, s1, s0, t3, t2, t1, t0, c3, c2, c1, c0, rest, rfl⟩ := exists_header hlong
  obtain ⟨hversion, offset, body, payload, hskip, hoffset, hpayload, rfl⟩ := (parse_eq_ok_iff rfl).1 h
  simp only [List.length_cons] at hoffset
  obtain ⟨sources, extension, hcount, hextended, rfl⟩ := behind_of_skipHeader hskip (by omega)
  obtain ⟨padding, hpadded, rfl⟩ := tail_of_payloadOf hpayload fun hne => by
    have hlast := getLastD_append ([b0, b1, s1, s0, t3, t2, t1, t0, c3, c2, c1, c0] ++
      sources.flatMap (octets 4 ·.toNat) ++ extension.elim [] Extension.bytes) hne
    simpa only [List.append_assoc, List.cons_append, List.nil_append] using hlast
  let l : Layout :=
    { marker := b1 &&& 0x80 ≠ 0
      payloadType := b1 &&& 0x7f
      sequence := wordOfBytes s1 s0
      timestamp := longOfBytes t3 t2 t1 t0
      ssrc := longOfBytes c3 c2 c1 c0
      sources, extension, payload, padding
      payloadType_lt := type_lt b1
      length_sources := hcount ▸ count_lt b0 }
  have hfirst : l.first = b0.toNat := by
    rw [toNat_eq_fields b0, hversion, ← hpadded, ← hextended, ← hcount]
    rfl
  have hsecond : l.second = b1.toNat := (toNat_eq_kind b1).symm
  refine ⟨l, ?_, rfl⟩
  rw [Layout.bytes, hfirst, hsecond, octets_one, octets_one, octets_wordOfBytes, octets_longOfBytes, octets_longOfBytes]
  rfl

/-! ## Packets as they are written -/

def Layout.plain (p : Packet) (h : p.payloadType.toNat < 128) : Layout where
  marker := p.marker
  payloadType := p.payloadType
  sequence := p.sequence
  timestamp := p.timestamp
  ssrc := p.ssrc
  sources := []
  extension := none
  payload := p.payload
  padding := none
  payloadType_lt := h
  length_sources := by decide

theorem toNat_markerByte (p : Packet) (h : p.payloadType.toNat < 128) :
    p.markerByte.toNat = 128 * p.marker.toNat + p.payloadType.toNat := by
  have hbits : ∀ (marker : Bool) (b : UInt8), b.toNat < 128 →
      ((if marker then 0x80 else 0) ||| (b &&& 0x7f)).toNat = 128 * marker.toNat + b.toNat := by
    decide +kernel
  exact hbits p.marker p.payloadType h

theorem serialize_eq (p : Packet) (h : p.payloadType.toNat < 128) : p.serialize = (Layout.plain p h).bytes := by
  have hmarker : octets 1 (Layout.plain p h).second = [p.markerByte] := by
    rw [← octets_one, toNat_markerByte p h]
    rfl
  have hversion : octets 1 (Layout.plain p h).first = [version <<< 6] := by
    rw [← octets_one]
    rfl
  rw [Layout.bytes, hmarker, hversion, Packet.serialize, wordBytes_eq, longBytes_eq, longBytes_eq]
  simp [Layout.behind, Layout.tail, Layout.plain]

theorem parse_serialize (p : Packet) (h : p.payloadType.toNat < 128) : parse p.serialize = .ok p := by
  rw [serialize_eq p h]
  exact parse_bytes _

end Playout.Rtp
