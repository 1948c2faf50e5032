import Playout.Mpeg.Header

/-!
# Side information of the third layer

Behind the header of a frame of the third layer stands a record of fixed size that says how the frame is
coded: where its data starts, and for each granule and each channel how much of what kind follows. Two fields
can hold a value that no coder writes; such a frame is refused before its data is looked at.
-/

namespace Playout.Mpeg

/-- The bits of a byte string, the highest bit of a byte first. -/
def bitsOf (bytes : Bytes) : List Bool :=
  bytes.flatMap fun b => (List.range 8).map fun i => b.toNat.testBit (7 - i)

/-- The number that bits make, the highest first. -/
def numberOf (bits : List Bool) : Nat := bits.foldl (fun n b => 2 * n + b.toNat) 0

/-- The windows that the values of a granule lie under. -/
inductive Windows where
  | long
  | short
  /-- Short windows above the two lowest bands. -/
  | mixed
deriving DecidableEq, Repr

/-- How a channel of a granule is coded, as far as that fixes the length of its data. -/
structure ChannelInfo where
  /-- Bits of the data. -/
  dataBits : Nat
  /-- Selects the widths of the scale factors. -/
  scaleIndex : Nat
  windows : Windows
deriving DecidableEq, Repr

/-- What the record of a frame says. -/
structure SideInfo where
  /-- The data starts so many bytes in front of that of the frame, in what earlier frames have left. -/
  reused : Nat
  /-- For each channel, the groups of scale factors that the second granule takes from the first. -/
  shared : List (List Bool)
  /-- Each granule in turn, and in it each channel. -/
  granules : List (List ChannelInfo)
deriving DecidableEq, Repr

namespace SideInfo

def reusedBits (h : Header) : Nat := if h.version = .one then 9 else 8

/-- Bits without meaning behind it. -/
def privateBits (h : Header) : Nat :=
  match h.version, h.mono with
  | .one, true => 5
  | .one, false => 3
  | _, true => 1
  | _, false => 2

/-- Groups of scale factors that the second granule can take from the first. -/
def sharedGroups (h : Header) : Nat := if h.version = .one then 4 else 0

def scaleBits (h : Header) : Nat := if h.version = .one then 4 else 9

/-- Bits of one channel of a granule: length of its data, count of large values, gain, scale factor
selection, the window switch, 22 bits of window or region, the flags behind them. -/
def channelBits (h : Header) : Nat :=
  12 + 9 + 8 + scaleBits h + 1 + 22 + (if h.version = .one then 3 else 2)

/-- A granule holds 576 values, large ones in pairs. -/
def maxPairs : Nat := 288

/-- Reads the windows, at the window switch. -/
def windows : List Bool → Except String Windows
  | true :: false :: false :: _ => .error "mpa: invalid block_type"
  | true :: true :: false :: isMixed :: _ => .ok (if isMixed then .mixed else .short)
  | _ => .ok .long

def channel (h : Header) (bits : List Bool) : Except String ChannelInfo :=
  if maxPairs < numberOf ((bits.drop 12).take 9) then .error "mpa: granule big_values > 288"
  else
    let selection := bits.drop (12 + 9 + 8)
    (windows (selection.drop (scaleBits h))).map fun windows =>
      { dataBits := numberOf (bits.take 12), scaleIndex := numberOf (selection.take (scaleBits h)), windows }

def channels (h : Header) : Nat → List Bool → Except String (List ChannelInfo)
  | 0, _ => .ok []
  | n + 1, bits => do
    let first ← channel h bits
    let rest ← channels h n (bits.drop (channelBits h))
    return first :: rest

def granulesOf (h : Header) : Nat → List Bool → Except String (List (List ChannelInfo))
  | 0, _ => .ok []
  | n + 1, bits => do
    let first ← channels h h.channels bits
    let rest ← granulesOf h n (bits.drop (h.channels * channelBits h))
    return first :: rest

def read (h : Header) (body : Bytes) : Except String SideInfo :=
  let record := bitsOf ((if h.checked then body.drop checksumBytes else body).take h.sideInfoBytes)
  let groups := record.drop (reusedBits h + privateBits h)
  let size := sharedGroups h
  (granulesOf h h.granules (groups.drop (h.channels * size))).map fun granules =>
    { reused := numberOf (record.take (reusedBits h))
      shared := (List.range h.channels).map fun c => (groups.drop (c * size)).take size
      granules }

end SideInfo

end Playout.Mpeg
