import Playout.Mpeg.Frame
import Playout.Mpeg.Tag

/-!
# The start of an MPEG audio stream

A stream may open with tags or with junk. The search looks for two bytes that may open a frame, or for the
three that open a tag. A tag is passed over, and the search goes on behind it.
-/

namespace Playout.Mpeg

open Source

/-- The refusal of a source in which no stream starts. -/
def noStream : PlaybackError :=
  .format (.probe ("no MPEG audio stream: unsupported feature: core (probe): " ++
    "no suitable format reader found"))

/-- Two bytes that may open a frame. -/
def mayOpenFrame (b1 b0 : UInt8) : Bool :=
  b1 = 0xff ∧ 0xe0 ≤ b0 ∧ bitField b0.toUInt32 3 2 ≠ 1 ∧ bitField b0.toUInt32 1 2 ≠ 0

inductive Opening where
  | frame
  | tag
deriving DecidableEq, Repr

/-- The bytes behind a possible opening that have to be there. -/
def contextBytes : Nat := 14

/-- The bytes up to which a stream has to have opened. -/
def searchLimit : Nat := 1024 * 1024

/-- Looks for an opening among the next `n` bytes and stands in front of it, or behind the first two bytes of
a tag. `previous` is the byte just read. -/
def findOpening (n : Nat) (previous : UInt8) (d : Delivery) :
    Except PlaybackError (Opening × Delivery) :=
  match n with
  | 0 => .error noStream
  | n + 1 =>
    match readByte d with
    | (.error _, _) => .error noStream
    | (.ok b, d1) =>
      if mayOpenFrame previous b ∨ (previous = 0x49 ∧ b = 0x44) then
        match readExact contextBytes [] d1 with
        | (.error stop, _) => .error stop.inHeader
        | (.ok context, d2) =>
          if mayOpenFrame previous b then .ok (.frame, d2.unread (previous :: b :: context))
          else if context.head? = some 0x33 then .ok (.tag, d2.unread context)
          else findOpening n b (d2.unread context)
      else findOpening n b d1

theorem findOpening_tag_size {n : Nat} {previous : UInt8} {d d' : Delivery}
    (h : findOpening n previous d = .ok (.tag, d')) : d'.size + 1 ≤ d.size := by
  fun_induction findOpening n previous d with
  | case1 => cases h
  | case2 => cases h
  | case3 => cases h
  | case4 => cases h
  | case5 previous d n b d1 hb hm context d2 hc hf ht =>
    cases h
    have := readByte_size hb
    have := readExact_size hc
    simp only [Delivery.unread_size, List.length_nil] at *
    omega
  | case6 previous d n b d1 hb hm context d2 hc hf ht ih =>
    have := ih h
    have := readByte_size hb
    have := readExact_size hc
    simp only [Delivery.unread_size, List.length_nil] at *
    omega
  | case7 previous d n b d1 hb hm ih =>
    have := ih h
    have := readByte_size hb
    omega

/-- Goes to the first place where a frame may open, past any tags. -/
def findStream (d : Delivery) : Except PlaybackError Delivery :=
  match _h : findOpening searchLimit 0 d with
  | .error e => .error e
  | .ok (.frame, d1) => .ok d1
  | .ok (.tag, d1) =>
    match passTag d1 with
    | .error e => .error e
    | .ok rest => findStream rest.val
termination_by d.size
decreasing_by
  have := findOpening_tag_size _h
  have := rest.property
  omega

end Playout.Mpeg
