import Playout.Pcm.Sample

/-!
# RTP packets

A packet is a fixed header of twelve bytes, the list of contributing sources, an optional extension, the
payload and optional padding. Packets are written without the optional parts; reading skips the
contributing sources and the extension and strips the padding.
-/

namespace Playout.Rtp

def version : UInt8 := 2

/-- The dynamic payload type of 16-bit audio at 16 kHz in one channel. -/
def audioPayloadType : UInt8 := 97

structure Packet where
  marker : Bool
  payloadType : UInt8
  sequence : UInt16
  timestamp : UInt32
  ssrc : UInt32
  payload : Bytes
deriving DecidableEq, Repr

/-- Why a datagram is not a packet. -/
inductive ParseError where
  | tooSmall (size : Nat)
  | wrongVersion (version : Nat)
  | truncatedExtension
  | truncatedHeader (size needed : Nat)
  | padding (length : Nat)
deriving DecidableEq, Repr

def ParseError.message : ParseError → String
  | .tooSmall size => s!"packet too small: {size} bytes"
  | .wrongVersion version => s!"invalid RTP version: {version}"
  | .truncatedExtension => "truncated header extension"
  | .truncatedHeader size needed => s!"packet too small for header: {size} < {needed}"
  | .padding length => s!"invalid padding length: {length}"

/-! ## Numbers in network order -/

/-- The two bytes of a word, high byte first. -/
def wordBytes (w : UInt16) : Bytes := [(w >>> 8).toUInt8, w.toUInt8]

def wordOfBytes (b1 b0 : UInt8) : UInt16 := (b1.toUInt16 <<< 8) ||| b0.toUInt16

/-- The four bytes of a long word, high byte first. -/
def longBytes (w : UInt32) : Bytes :=
  [(w >>> 24).toUInt8, (w >>> 16).toUInt8, (w >>> 8).toUInt8, w.toUInt8]

def longOfBytes (b3 b2 b1 b0 : UInt8) : UInt32 :=
  (b3.toUInt32 <<< 24) ||| (b2.toUInt32 <<< 16) ||| (b1.toUInt32 <<< 8) ||| b0.toUInt32

/-! ## Writing -/

namespace Packet

/-- A packet of 16-bit audio without the marker. -/
def ofPayload (sequence : UInt16) (timestamp ssrc : UInt32) (payload : Bytes) : Packet :=
  ⟨false, audioPayloadType, sequence, timestamp, ssrc, payload⟩

def ofSamples (sequence : UInt16) (timestamp ssrc : UInt32) (samples : List Sample) : Packet :=
  ofPayload sequence timestamp ssrc (Pcm.toBigEndian samples)

/-- The byte that holds the marker above the seven bits of the payload type. -/
def markerByte (p : Packet) : UInt8 :=
  (if p.marker then 0x80 else 0) ||| (p.payloadType &&& 0x7f)

/-- The wire image: no padding, no extension, no contributing sources. -/
def serialize (p : Packet) : Bytes :=
  (version <<< 6) :: p.markerByte :: wordBytes p.sequence ++ longBytes p.timestamp ++ longBytes p.ssrc
    ++ p.payload

end Packet

/-! ## Reading -/

/-- The end of the extension that starts at `offset` with the bytes `rest`, and the bytes behind it. The
extension is four bytes, the last two of which count the words that follow. -/
def skipExtension (offset : Nat) (rest : Bytes) : Except ParseError (Nat × Bytes) :=
  match rest with
  | _ :: _ :: w1 :: w0 :: body =>
    let length := 4 * (wordOfBytes w1 w0).toNat
    .ok (offset + 4 + length, body.drop length)
  | _ => .error .truncatedExtension

/-- The end of the header whose first byte is `flags` and which goes on with the bytes `rest` behind its fixed
part, and the bytes behind it. -/
def skipHeader (flags : UInt8) (rest : Bytes) : Except ParseError (Nat × Bytes) :=
  let sources := 4 * (flags &&& 0x0f).toNat
  if flags &&& 0x10 ≠ 0 then skipExtension (12 + sources) (rest.drop sources)
  else .ok (12 + sources, rest.drop sources)

/-- The payload in front of the padding. The last byte of the datagram is the length of the padding, which
holds at least that byte and no byte of the header. -/
def stripPadding (last : UInt8) (body : Bytes) : Except ParseError Bytes :=
  let length := last.toNat
  if length = 0 ∨ body.length < length then .error (.padding length)
  else .ok (body.take (body.length - length))

/-- The payload of what is behind the header. -/
def payloadOf (flags last : UInt8) (body : Bytes) : Except ParseError Bytes :=
  if flags &&& 0x20 ≠ 0 then stripPadding last body else .ok body

/-- Reads a datagram. The checks run in the order of the layout. -/
def parse (data : Bytes) : Except ParseError Packet :=
  match data with
  | b0 :: b1 :: s1 :: s0 :: t3 :: t2 :: t1 :: t0 :: c3 :: c2 :: c1 :: c0 :: rest => do
    if b0 >>> 6 ≠ version then throw (.wrongVersion (b0 >>> 6).toNat)
    let (offset, body) ← skipHeader b0 rest
    if data.length < offset then throw (.truncatedHeader data.length offset)
    let payload ← payloadOf b0 (data.getLastD 0) body
    return {
      marker := b1 &&& 0x80 ≠ 0
      payloadType := b1 &&& 0x7f
      sequence := wordOfBytes s1 s0
      timestamp := longOfBytes t3 t2 t1 t0
      ssrc := longOfBytes c3 c2 c1 c0
      payload }
  | _ => .error (.tooSmall data.length)

end Playout.Rtp
