import Playout.Mpeg.Reading

/-!
# Tags in front of a stream

A stream may open with a tag: its version, its size, and frames of text about the piece. Nothing of it is
played, but it is read as it says it is built, and a tag that contradicts itself spoils the stream. Reading
never goes beyond the size of the tag. In some tags a zero byte is stuffed in behind every byte of set bits,
so that no tag looks like a header; such zeros are left out again.
-/

namespace Playout.Mpeg

open Source

def badTag (reason : String) : PlaybackError := .format (.probe s!"no MPEG audio stream: {reason}")

def malformedTag (reason : String) : PlaybackError := badTag s!"malformed stream: id3v2: {reason}"

def unsupportedTag (reason : String) : PlaybackError := badTag s!"unsupported feature: id3v2: {reason}"

/-- The delivery ended, or the tag did. -/
def tagEnded : PlaybackError := Stop.ended.inHeader

/-! ## Reading inside a tag -/

/-- A reader inside a tag. The delivery never grows beyond `bound`. -/
structure TagScope (bound : Nat) where
  delivery : Delivery
  /-- Bytes of the tag that were not read. -/
  left : Nat
  /-- Zero bytes are stuffed in. -/
  stuffed : Bool
  /-- The byte read last. -/
  last : UInt8 := 0
  size_le : delivery.size ≤ bound

abbrev TagReader (bound : Nat) (α : Type) := StateT (TagScope bound) (Except PlaybackError) α

namespace TagReader

variable {bound : Nat} {α : Type}

def times (n : Nat) (read : TagReader bound α) : TagReader bound (List α) :=
  match n with
  | 0 => return []
  | n + 1 => do
    let a ← read
    let rest ← times n read
    return a :: rest

def left : TagReader bound Nat := return (← get).left

/-- Fails unless the tag has `n` more bytes. -/
def require (n : Nat) : TagReader bound Unit := do if (← left) < n then throw tagEnded

def rawByte : TagReader bound UInt8 := fun s =>
  if s.left = 0 then .error tagEnded
  else
    match h : readByte s.delivery with
    | (.ok b, d) =>
      .ok (b, { s with
        delivery := d, left := s.left - 1
        size_le := Nat.le_trans (Nat.le_of_succ_le (readByte_size h)) s.size_le })
    | (.error stop, _) => .error stop.inHeader

/-- Reads `n` bytes at once as they stand. -/
def rawBlock (n : Nat) : TagReader bound Bytes := fun s =>
  if s.left < n then .error tagEnded
  else
    match h : readExact n [] s.delivery with
    | (.ok bytes, d) =>
      .ok (bytes, { s with
        delivery := d, left := s.left - n
        size_le := Nat.le_trans (readExact_rest_size h) s.size_le })
    | (.error stop, _) => .error stop.inHeader

/-- Reads a byte, and passes over a zero that was stuffed in. -/
def byte : TagReader bound UInt8 := do
  let s ← get
  let b ← rawByte
  let b ← if s.stuffed ∧ s.last = 0xff ∧ b = 0 then rawByte else pure b
  modify fun s => { s with last := b }
  return b

def field (n : Nat) : TagReader bound Bytes := do
  if !(← get).stuffed then require n
  times n byte

def block (n : Nat) : TagReader bound Bytes := do
  if (← get).stuffed then times n byte else rawBlock n

def skip (n : Nat) : TagReader bound Unit := do
  if !(← get).stuffed then require n
  discard (times n rawByte)

def number (n : Nat) : TagReader bound Nat :=
  return (← field n).foldl (fun n b => 256 * n + b.toNat) 0

end TagReader

/-- The number that bytes of seven bits make. -/
def sevenBitNumber (bytes : Bytes) : Nat := bytes.foldl (fun n b => 128 * n + b.toNat % 128) 0

/-! ## Frames of text -/

/-- The content of a frame, as far as it can be unsound. -/
inductive TagContent where
  /-- A text, with its encoding in front. -/
  | text
  /-- A text with a description. -/
  | describedText
  /-- An address with a description. -/
  | describedAddress
  /-- A text in a language. -/
  | remark
  | picture
  | playCount
  | rating
  /-- Anything at all. -/
  | any
deriving DecidableEq, Repr

def textFrames : List String :=
  ["GRP1", "IPLS", "MVIN", "MVNM", "PCST", "TALB", "TBPM", "TCAT", "TCMP", "TCOM", "TCON", "TCOP", "TDAT",
    "TDEN", "TDES", "TDLY", "TDOR", "TDRC", "TDRL", "TDTG", "TENC", "TEXT", "TFLT", "TGID", "TIME", "TIPL",
    "TIT1", "TIT2", "TIT3", "TKEY", "TKWD", "TLAN", "TLEN", "TMCL", "TMED", "TMOO", "TOAL", "TOFN", "TOLY",
    "TOPE", "TORY", "TOWN", "TPE1", "TPE2", "TPE3", "TPE4", "TPOS", "TPRO", "TPUB", "TRCK", "TRDA", "TRSN",
    "TRSO", "TSIZ", "TSO2", "TSOA", "TSOC", "TSOP", "TSOT", "TSRC", "TSSE", "TSST", "TYER", "WFED"]

/-- The frames that hold anything at all. -/
def plainFrames : List String :=
  ["MCDI", "PRIV", "WCOM", "WCOP", "WOAF", "WOAR", "WOAS", "WORS", "WPAY", "WPUB"]

/-- The content of the frames of a name, if frames of that name are read. -/
def contentOf? (name : String) : Option TagContent :=
  if textFrames.contains name then some .text
  else if plainFrames.contains name then some .any
  else
    match name with
    | "TXXX" => some .describedText
    | "WXXX" => some .describedAddress
    | "COMM" => some .remark
    | "USLT" => some .remark
    | "APIC" => some .picture
    | "PCNT" => some .playCount
    | "POPM" => some .rating
    | _ => none

/-- Frame names of three letters, with the names that took their place. -/
def shortNames : List (String × String) :=
  [("BUF", "RBUF"), ("CNT", "PCNT"), ("COM", "COMM"), ("CRA", "AENC"), ("EQU", "EQUA"), ("ETC", "ETCO"),
    ("GEO", "GEOB"), ("IPL", "IPLS"), ("LNK", "LINK"), ("MCI", "MCDI"), ("MLL", "MLLT"), ("PIC", "APIC"),
    ("POP", "POPM"), ("REV", "RVRB"), ("RVA", "RVAD"), ("SLT", "SYLT"), ("STC", "SYTC"), ("TAL", "TALB"),
    ("TBP", "TBPM"), ("TCM", "TCOM"), ("TCO", "TCON"), ("TCR", "TCOP"), ("TDA", "TDAT"), ("TDY", "TDLY"),
    ("TEN", "TENC"), ("TFT", "TFLT"), ("TIM", "TIME"), ("TKE", "TKEY"), ("TLA", "TLAN"), ("TLE", "TLEN"),
    ("TMT", "TMED"), ("TOA", "TOPE"), ("TOF", "TOFN"), ("TOL", "TOLY"), ("TOR", "TORY"), ("TOT", "TOAL"),
    ("TP1", "TPE1"), ("TP2", "TPE2"), ("TP3", "TPE3"), ("TP4", "TPE4"), ("TPA", "TPOS"), ("TPB", "TPUB"),
    ("TRC", "TSRC"), ("TRD", "TRDA"), ("TRK", "TRCK"), ("TS2", "TSO2"), ("TSA", "TSOA"), ("TSC", "TSOC"),
    ("TSI", "TSIZ"), ("TSP", "TSOP"), ("TSS", "TSSE"), ("TST", "TSOT"), ("TT1", "TIT1"), ("TT2", "TIT2"),
    ("TT3", "TIT3"), ("TXT", "TEXT"), ("TXX", "TXXX"), ("TYE", "TYER"), ("UFI", "UFID"), ("ULT", "USLT"),
    ("WAF", "WOAF"), ("WAR", "WOAR"), ("WAS", "WOAS"), ("WCM", "WCOM"), ("WCP", "WCOP"), ("WPB", "WPUB"),
    ("WXX", "WXXX")]

/-- Texts are written in one of four encodings. -/
def isEncoding (b : UInt8) : Bool := b < 4

/-- What stands behind a text in single bytes that ends with a zero. -/
def behindText (content : Bytes) : Bytes := (content.dropWhile (· ≠ 0)).drop 1

/-- Refuses content whose first byte is no encoding. -/
def checkEncoding (content : Bytes) (reason : String) : Except PlaybackError Bytes :=
  match content with
  | [] => .error tagEnded
  | b :: rest => if isEncoding b then .ok rest else .error (malformedTag reason)

def checkLength (content : Bytes) (n : Nat) : Except PlaybackError Unit :=
  if content.length < n then .error tagEnded else .ok ()

def TagContent.check (content : Bytes) : TagContent → Except PlaybackError Unit
  | .text => discard (checkEncoding content "invalid text encoding")
  | .describedText => discard (checkEncoding content "invalid TXXX text encoding")
  | .describedAddress => discard (checkEncoding content "invalid WXXX URL description encoding")
  | .remark => do checkLength (← checkEncoding content "invalid text encoding") 3
  | .picture => do checkLength (behindText (← checkEncoding content "invalid text encoding")) 1
  | .playCount =>
    if content.length < 4 then
      .error (malformedTag "play counters must be a minimum of 32bits")
    else if 8 < content.length then
      .error (unsupportedTag "play counters greater than 64bits are not supported")
    else .ok ()
  | .rating => checkLength (behindText content) 1
  | .any => .ok ()

/-! ## Versions -/

inductive TagVersion where
  | two
  | three
  | four
deriving DecidableEq, Repr

def TagVersion.ofByte? (b : UInt8) : Option TagVersion :=
  if b = 2 then some .two else if b = 3 then some .three else if b = 4 then some .four else none

namespace TagVersion

def nameLength : TagVersion → Nat
  | .two => 3
  | _ => 4

/-- Fewer bytes hold no frame. -/
def frameMinimum : TagVersion → Nat
  | .two => 6
  | _ => 10

def contentOf? (v : TagVersion) (name : String) : Option TagContent :=
  match v with
  | .two => ((shortNames.find? (·.1 = name)).map (·.2)).bind Mpeg.contentOf?
  | _ => Mpeg.contentOf? name

/-- The flags of a frame that have no meaning. -/
def unusedFlags : TagVersion → Nat
  | .two => 0
  | .three => 0x1f1f
  | .four => 0x8fb0

/-- The flags that a frame is compressed, encrypted, in a group, that its zeros were stuffed in, and that its
length is stated. -/
def compressedFlag : TagVersion → Nat
  | .two => 0
  | .three => 0x80
  | .four => 0x8
def encryptedFlag : TagVersion → Nat
  | .two => 0
  | .three => 0x40
  | .four => 0x4
def groupFlag : TagVersion → Nat
  | .two => 0
  | .three => 0x20
  | .four => 0x40
def stuffedFlag : TagVersion → Nat
  | .four => 0x2
  | _ => 0
def lengthFlag : TagVersion → Nat
  | .four => 0x1
  | _ => 0

end TagVersion

/-! ## Reading a tag -/

/-- May stand in the name of a frame. -/
def inFrameName (b : UInt8) : Bool := (48 ≤ b && b ≤ 57) || (65 ≤ b && b ≤ 90)

/-- Leaves out the zeros that were stuffed in. -/
def unstuff : Bytes → Bytes
  | 0xff :: 0 :: rest => 0xff :: unstuff rest
  | b :: rest => b :: unstuff rest
  | [] => []

namespace TagReader

variable {bound : Nat}

/-- A number in four bytes of seven bits. -/
def sevenBits : TagReader bound Nat := return sevenBitNumber (← times 4 byte)

def contentSize : TagVersion → TagReader bound Nat
  | .two => number 3
  | .three => number 4
  | .four => sevenBits

/-- Reads the content of a frame of `size` bytes. What stands in front of it takes part in the size. -/
def content (v : TagVersion) (flags size : Nat) : TagReader bound Bytes := do
  let grouped := 1 ≤ size ∧ flags &&& v.groupFlag ≠ 0
  if grouped then discard byte
  let size := if grouped then size - 1 else size
  let stated := 4 ≤ size ∧ flags &&& v.lengthFlag ≠ 0
  if stated then discard sevenBits
  let size := if stated then size - 4 else size
  let bytes ← block size
  return if flags &&& v.stuffedFlag ≠ 0 then unstuff bytes else bytes

/-- Reads a frame, unless the padding starts: whether there was one. A frame without content says nothing. -/
def frame (v : TagVersion) : TagReader bound Bool := do
  let name ← field v.nameLength
  if !name.all inFrameName then return false
  let size ← contentSize v
  let flags ← if v = .two then pure 0 else number 2
  if flags &&& v.unusedFlags ≠ 0 then throw (malformedTag "unused flag bits are not cleared")
  match v.contentOf? (String.ofList (name.map fun b => Char.ofNat b.toNat)) with
  | none => skip size
  | some kind =>
    if flags &&& v.compressedFlag ≠ 0 then
      skip size
      throw (unsupportedTag "compressed frames are not supported")
    if flags &&& v.encryptedFlag ≠ 0 then
      skip size
      throw (unsupportedTag "encrypted frames are not supported")
    let bytes ← content v flags size
    if !bytes.isEmpty then kind.check bytes
  return true

/-- Reads frames as long as there is room for one. Each takes up some of the bytes, so no tag has more frames
than bytes. -/
def frames (v : TagVersion) : Nat → TagReader bound Unit
  | 0 => return
  | n + 1 => do
    if ← frame v then
      if v.frameMinimum ≤ (← left) then frames v n

/-- Reads a field of an extension that holds `n` bytes, with its length in front. -/
def extensionField (n : Nat) (reason : String) : TagReader bound Unit := do
  if (← byte).toNat ≠ n then throw (malformedTag reason)
  discard (times n byte)

def extension : TagVersion → TagReader bound Unit
  | .two => return
  | .three => do
    let size ← number 4
    let flags ← number 2
    discard (number 4)
    if size ≠ 6 ∧ size ≠ 10 then throw (malformedTag "invalid extended header size")
    if size = 10 ∧ flags &&& 0x8000 ≠ 0 then discard (number 4)
  | .four => do
    discard sevenBits
    if (← byte) ≠ 1 then throw (malformedTag "extended flags should have a length of 1")
    let flags ← byte
    if flags &&& 0x40 ≠ 0 then
      if (← byte) ≠ 1 then throw (malformedTag "is update extended flag has invalid size")
    if flags &&& 0x20 ≠ 0 then extensionField 5 "CRC32 extended flag has invalid size"
    if flags &&& 0x10 ≠ 0 then extensionField 1 "restrictions extended flag has invalid size"

def body (v : TagVersion) (extended : Bool) : TagReader bound Unit := do
  if extended then extension v
  frames v ((← left) + 1)
  modify fun s => { s with stuffed := false }
  skip (← left)

end TagReader

/-- Passes over a tag of which the first two bytes have been read. What is left is no more than before. -/
def passTag (d : Delivery) : Except PlaybackError { rest : Delivery // rest.size ≤ d.size } :=
  match h : readExact 8 [] d with
  | (.ok [_, version, revision, flags, s3, s2, s1, s0], d1) =>
    if version = 0xff ∨ revision = 0xff then .error (malformedTag "invalid version number(s)")
    else
      match TagVersion.ofByte? version with
      | none => .error (unsupportedTag "unsupported ID3v2 version")
      | some v =>
        if v = .two ∧ flags &&& 0x40 ≠ 0 then
          .error (unsupportedTag "ID3v2.2 compression is not supported")
        else
          let scope : TagScope d.size :=
            { delivery := d1
              left := sevenBitNumber [s3, s2, s1, s0]
              stuffed := flags &&& 0x80 ≠ 0 && v ≠ .four
              size_le := readExact_rest_size h }
          match (TagReader.body v (flags &&& 0x40 ≠ 0)).run scope with
          | .error e => .error e
          | .ok (_, scope) => .ok ⟨scope.delivery, scope.size_le⟩
  | (.ok _, _) => .error tagEnded
  | (.error stop, _) => .error stop.inHeader

end Playout.Mpeg
