import Playout.Mpeg.Frame

/-!
# Frames that sum up a stream

A coder may put in front of a stream a frame without sound. Where the frame would hold its data it has a record
of the stream: how many frames there are, where they lie, which coder wrote them. Such a frame is not played,
wherever it stands.
-/

namespace Playout.Mpeg

open Source

def asciiBytes (s : String) : Bytes := s.toList.map fun c => c.toNat.toUInt8

def bigEndian (bytes : Bytes) : Nat := bytes.foldl (fun n b => 256 * n + b.toNat) 0

/-- Takes a byte into a checksum of sixteen bits. -/
def checksumStep (sum : UInt16) (b : UInt8) : UInt16 :=
  (List.range 8).foldl (fun sum _ => if sum &&& 1 = 1 then (sum >>> 1) ^^^ 0xa001 else sum >>> 1)
    (sum ^^^ b.toUInt16)

def checksum (bytes : Bytes) : UInt16 := bytes.foldl checksumStep 0

namespace Frame

/-- A record of this name starts `offset` bytes behind the header of the frame, there are `size` bytes for
it, and all in front of it is empty. -/
def holdsAt (f : Frame) (offset size : Nat) (names : List String) : Bool :=
  f.header.layer = .third && offset + size ≤ f.body.length &&
    names.any (fun name => (asciiBytes name).isPrefixOf (f.body.drop offset)) &&
    (f.body.take offset).all (· = 0)

/-! ## The record of tables and counts -/

/-- Its names, for variable and for constant bit rates. -/
def tableNames : List String := ["Xing", "Info"]

/-- Bytes of the name and of the flags behind it. -/
def tableStart : Nat := 8

/-- Bytes of the parts that the flags name: the number of frames, the number of bytes, a table of places, the
quality. -/
def tableBytes (flags : Nat) : Nat :=
  let part (bit size : Nat) := if flags.testBit bit then size else 0
  part 0 4 + part 1 4 + part 2 100 + part 3 4

/-- Bytes of what the coder says of itself, without and with the checksum behind it. -/
def coderBytes : Nat := 36
def coderBytesSummed : Nat := coderBytes - 2

/-- The frame is a record of tables and counts. Its parts lie within the frame. If the coder or the frame
vouches for what the coder says of itself, the checksum of all that stands in front of it is right. -/
def isTable (f : Frame) : Bool :=
  let offset := f.header.sideInfoBytes
  let record := f.body.drop offset
  let tables := tableStart + tableBytes (bigEndian ((record.drop 4).take 4))
  let coder := record.drop tables
  let summed := (coder.drop coderBytesSummed).take 2
  f.holdsAt offset tableStart tableNames && tables ≤ record.length &&
    (coder.length < coderBytes || !(f.header.checked || (asciiBytes "LAME").isPrefixOf coder) ||
      (checksum (f.headerImage ++ f.body.take (offset + tables + coderBytesSummed))).toNat =
        bigEndian summed)

/-! ## The record of counts -/

/-- Its name, its place behind the header, and its bytes. -/
def countsName : String := "VBRI"
def countsOffset : Nat := 32
def countsBytes : Nat := 26

/-- The frame is a record of counts. There is one version of it. -/
def isCounts (f : Frame) : Bool :=
  f.holdsAt countsOffset countsBytes [countsName] &&
    bigEndian ((f.body.drop (countsOffset + 4)).take 2) = 1

def isSummary (f : Frame) : Bool := f.isTable || f.isCounts

end Frame

/-! ## Passing over -/

def nextFrame (d : Delivery) : Except Stop Frame × Delivery :=
  match _h : readFrame d with
  | (.error stop, d1) => (.error stop, d1)
  | (.ok f, d1) => if f.isSummary then nextFrame d1 else (.ok f, d1)
termination_by d.size
decreasing_by
  have := readFrame_size _h
  omega

theorem nextFrame_size {d d' : Delivery} {f : Frame} (h : nextFrame d = (.ok f, d')) :
    0 < f.image.length ∧ f.image.length + d'.size ≤ d.size := by
  fun_induction nextFrame d with
  | case1 => cases h
  | case2 d f' d1 hr hs ih =>
    have := ih h
    have := readFrame_size hr
    omega
  | case3 d f' d1 hr hs =>
    cases h
    exact readFrame_size hr

end Playout.Mpeg
