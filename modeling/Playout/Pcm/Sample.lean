/-!
# Samples and their byte forms

A sample is a signed 16-bit amplitude. It crosses the borders of the program as two bytes, the low
byte first in files and on the control plane, the high byte first in the L16 payload of RTP. Both
codecs take two bytes at a time, so a stream may be cut at any even offset, and both leave out a byte
that has no partner.
-/

namespace Playout

/-- One signed 16-bit amplitude. -/
abbrev Sample := Int16

/-- A run of octets. -/
abbrev Bytes := List UInt8

namespace Sample

/-- The sample whose two's complement has these two bytes. -/
def ofBytes (lo hi : UInt8) : Sample := (lo.toUInt16 ||| (hi.toUInt16 <<< 8)).toInt16

def lowByte (s : Sample) : UInt8 := s.toUInt16.toUInt8

def highByte (s : Sample) : UInt8 := (s.toUInt16 >>> 8).toUInt8

end Sample

namespace Pcm

/-! ## Low byte first -/

/-- The samples of a byte string that holds each sample low byte first. -/
def ofLittleEndian : Bytes → List Sample
  | lo :: hi :: rest => Sample.ofBytes lo hi :: ofLittleEndian rest
  | _ => []

/-- The bytes of the samples, each low byte first. -/
def toLittleEndian (samples : List Sample) : Bytes :=
  samples.flatMap fun s => [s.lowByte, s.highByte]

/-! ## High byte first -/

/-- The samples of a byte string that holds each sample high byte first. -/
def ofBigEndian : Bytes → List Sample
  | hi :: lo :: rest => Sample.ofBytes lo hi :: ofBigEndian rest
  | _ => []

/-- The bytes of the samples, each high byte first. -/
def toBigEndian (samples : List Sample) : Bytes :=
  samples.flatMap fun s => [s.highByte, s.lowByte]

/-- Exchanges the two bytes of every pair, which turns one byte order into the other. -/
def swapPairs : Bytes → Bytes
  | a :: b :: rest => b :: a :: swapPairs rest
  | _ => []

@[simp] theorem ofLittleEndian_nil : ofLittleEndian [] = [] := rfl

@[simp] theorem ofLittleEndian_cons (lo hi : UInt8) (rest : Bytes) :
    ofLittleEndian (lo :: hi :: rest) = Sample.ofBytes lo hi :: ofLittleEndian rest := rfl

@[simp] theorem toLittleEndian_nil : toLittleEndian [] = [] := rfl

@[simp] theorem toLittleEndian_cons (s : Sample) (rest : List Sample) :
    toLittleEndian (s :: rest) = s.lowByte :: s.highByte :: toLittleEndian rest := rfl

@[simp] theorem toBigEndian_cons (s : Sample) (rest : List Sample) :
    toBigEndian (s :: rest) = s.highByte :: s.lowByte :: toBigEndian rest := rfl

@[simp] theorem swapPairs_cons (a b : UInt8) (rest : Bytes) :
    swapPairs (a :: b :: rest) = b :: a :: swapPairs rest := rfl

end Pcm

end Playout
