import Playout.Error
import Playout.Mpeg.SideInfo

/-!
# The data of a frame of the third layer

The data of a frame may start in what earlier frames have left over. The data of each channel of a granule
opens with scale factors, whose bits the side information fixes, and has to be there as a whole. Where a
stream is entered in its midst, what earlier frames should have left is missing: the channels whose data it
holds are passed over in silence.
-/

namespace Playout.Mpeg

/-! ## Scale factors -/

/-- Scale factors in groups: the bits of each factor of a group, and the factors of the groups under each kind
of windows. -/
structure ScaleLayout where
  widths : List Nat
  long : List Nat
  short : List Nat
  mixed : List Nat
deriving DecidableEq, Repr

def ScaleLayout.groups (l : ScaleLayout) : Windows → List Nat
  | .long => l.long
  | .short => l.short
  | .mixed => l.mixed

def groupBits (widths groups : List Nat) : Nat :=
  (List.zipWith (· * ·) widths groups).foldl (· + ·) 0

/-- The two widths of factors in version one, by their selection. -/
def scaleWidths : List (Nat × Nat) :=
  [(0, 0), (0, 1), (0, 2), (0, 3), (3, 0), (1, 1), (1, 2), (1, 3), (2, 1), (2, 2), (2, 3), (3, 1), (3, 2),
    (3, 3), (4, 2), (4, 3)]

/-- Bits of the scale factors in version one. Under long windows, groups that are `shared` are not there. -/
def scaleBitsOne (info : ChannelInfo) (shared : List Bool) : Nat :=
  let (low, high) := scaleWidths.getD info.scaleIndex (0, 0)
  match info.windows with
  | .long =>
    let groups := [6, 5, 5, 5].zipIdx.map fun (n, i) => if shared.getD i false then 0 else n
    groupBits [low, low, high, high] groups
  | .short => groupBits [low, high] [18, 18]
  | .mixed => groupBits [low, high] [17, 18]

/-- The layout of scale factors in the later versions. -/
def scaleLayout (n : Nat) : ScaleLayout :=
  if n < 400 then
    ⟨[n / 16 / 5, n / 16 % 5, n % 16 / 4, n % 4], [6, 5, 5, 5], [9, 9, 9, 9], [6, 9, 9, 9]⟩
  else if n < 500 then
    let n := n - 400
    ⟨[n / 4 / 5, n / 4 % 5, n % 4], [6, 5, 7], [9, 9, 12], [6, 9, 12]⟩
  else
    let n := n - 500
    ⟨[n / 3, n % 3], [11, 10], [18, 18], [15, 18]⟩

/-- The layout of scale factors in the later versions for a channel that only shares out another. -/
def intensityLayout (index : Nat) : ScaleLayout :=
  let n := index / 2
  if n < 180 then ⟨[n / 36, n % 36 / 6, n % 6], [7, 7, 7], [12, 12, 12], [6, 15, 12]⟩
  else if n < 244 then
    let n := n - 180
    ⟨[n % 64 / 16, n % 16 / 4, n % 4], [6, 6, 6], [12, 9, 9], [6, 12, 9]⟩
  else
    let n := n - 244
    ⟨[n / 3, n % 3], [8, 8], [15, 12], [6, 18]⟩

/-- Bits of the scale factors in the later versions. -/
def scaleBitsTwo (info : ChannelInfo) (sharesOut : Bool) : Nat :=
  let layout := if sharesOut then intensityLayout info.scaleIndex else scaleLayout info.scaleIndex
  groupBits layout.widths (layout.groups info.windows)

/-! ## Passing over the data -/

/-- The length of the data of a channel of a granule. -/
structure DataLength where
  /-- Bits of the scale factors. -/
  scale : Nat
  /-- Bits of the data, the scale factors included. -/
  whole : Nat
deriving DecidableEq, Repr

/-- The lengths that the side information states, granule by granule and channel by channel. -/
def SideInfo.lengths (h : Header) (info : SideInfo) : List DataLength :=
  info.granules.zipIdx.flatMap fun (channels, g) =>
    channels.zipIdx.map fun (channel, c) =>
      { scale :=
          if h.version = .one then scaleBitsOne channel (if g = 0 then [] else info.shared.getD c [])
          else scaleBitsTwo channel (h.intensity && 0 < c)
        whole := channel.dataBits }

/-- The decode error of a frame that the stream does not allow, in the words `reason`. -/
def malformedFrame (reason : String) : PlaybackError := .decode s!"malformed stream: {reason}"

def dataEnded : PlaybackError := .transport "unexpected end of bitstream"

/-- Goes on over data in `size` bytes of which `missing` bits in front are not there, from bit `place`: where it
ends. `passed` bits of the missing ones have been passed over. -/
def passLengths (size missing : Nat) : List DataLength → (place passed : Nat) → Except PlaybackError Nat
  | [], place, _ => .ok place
  | l :: rest, place, passed =>
    if passed < missing then
      let passed := passed + l.whole
      passLengths size missing rest (if missing < passed then passed - missing else place) passed
    else if size ≤ place / 8 then .error (malformedFrame "mpa: invalid main_data offset")
    else if 8 * size < place + l.scale then .error dataEnded
    else if l.whole < l.scale then .error (malformedFrame "mpa: part2_3_length is not valid")
    else if 8 * size < place + l.whole then .error dataEnded
    else passLengths size missing rest (place + l.whole) passed

/-- Passes over the data of a frame, where earlier frames left `kept` bytes: the bytes that are left for later
ones. -/
def SideInfo.passData (h : Header) (info : SideInfo) (kept : Nat) : Except PlaybackError Nat :=
  let size := min info.reused kept + h.dataBytes
  (passLengths size (8 * (info.reused - kept)) (info.lengths h) 0 0).map fun place =>
    size - (place + 7) / 8

end Playout.Mpeg
