import Mathlib
import Playout.Playback.Feed

/-!
# Who is to blame when a decoder fails

A decoder fails because its source cannot be read on, is no container of its kind, or holds data that cannot be
decoded. It never fails for a reason of the playback around it (`ofSource_of_mem_feed`).
-/

namespace Playout

/-- The failure is one of the source: of its transport, its format or its data. -/
def PlaybackError.ofSource : PlaybackError → Bool
  | .transport _ | .format _ | .decode _ => true
  | _ => false

/-- If it fails, the source is to blame. -/
def BlamesSource {α : Type} (result : Except PlaybackError α) : Prop :=
  ∀ cause, result = .error cause → cause.ofSource = true

namespace BlamesSource

variable {α β : Type}

theorem ok (a : α) : BlamesSource (.ok a : Except PlaybackError α) := by
  intro cause heq
  cases heq

theorem error {cause : PlaybackError} (h : cause.ofSource = true) :
    BlamesSource (.error cause : Except PlaybackError α) := by
  intro cause' heq
  cases heq
  exact h

theorem passed {result : Except PlaybackError α} {cause : PlaybackError} (h : BlamesSource result)
    (heq : result = .error cause) : BlamesSource (.error cause : Except PlaybackError β) :=
  .error (h cause heq)

theorem bind {result : Except PlaybackError α} {k : α → Except PlaybackError β} (h : BlamesSource result)
    (hk : ∀ a, BlamesSource (k a)) : BlamesSource (result >>= k) := by
  cases result with
  | error cause => exact .error (h cause rfl)
  | ok a => exact hk a

theorem map {result : Except PlaybackError α} (h : BlamesSource result) (f : α → β) :
    BlamesSource (result.map f) := by
  cases result with
  | error cause => exact .error (h cause rfl)
  | ok a => exact .ok _

end BlamesSource

/-! ## Containers -/

namespace Wav

open Source

theorem blames_readPart (d : Delivery) (n : Nat) : BlamesSource (readPart d n) := by
  unfold readPart
  split
  · exact .ok _
  · exact .error rfl

theorem blames_readExactly (d : Delivery) (n : Nat) (part : String) : BlamesSource (readExactly d n part) := by
  unfold readExactly
  split
  · split
    · exact .error rfl
    · exact .ok _
  · next heq => exact (blames_readPart d n).passed heq

theorem blames_skip (d : Delivery) (n : Nat) (part : String) : BlamesSource (skip d n part) := by
  unfold skip
  split
  · exact .ok _
  · next heq => exact (blames_readExactly d n part).passed heq

theorem blames_skipPadding (d : Delivery) (size : Nat) : BlamesSource (skipPadding d size) := by
  unfold skipPadding
  split
  · exact blames_skip d 1 _
  · exact .ok d

theorem blames_readFmt (d : Delivery) (size : Nat) : BlamesSource (readFmt d size) := by
  unfold readFmt
  split
  · exact .error rfl
  split
  · next heq => exact (blames_readExactly d 16 _).passed heq
  split
  · next heq => exact (blames_skip _ _ _).passed heq
  split
  · exact .error rfl
  split
  · next heq => exact (blames_skipPadding _ size).passed heq
  · exact .ok _

theorem blames_skipChunk (d : Delivery) (size : Nat) : BlamesSource (skipChunk d size) := by
  unfold skipChunk
  split
  · next heq => exact (blames_skip d size _).passed heq
  · exact blames_skipPadding _ size

theorem blames_scanChunks (fmt : Option Fmt) (d : Delivery) : BlamesSource (scanChunks fmt d) := by
  fun_induction scanChunks fmt d
  case case1 heq => exact (blames_readPart _ 8).passed heq
  case case2 heq => exact (blames_readFmt _ _).passed heq
  case case3 ih | case7 ih => exact ih
  case case4 | case8 => exact .error rfl
  case case5 => exact .ok _
  case case6 heq => exact (blames_skipChunk _ _).passed heq

theorem blames_readHeader (d : Delivery) : BlamesSource (readHeader d) := by
  unfold readHeader
  split
  · next heq => exact (blames_readExactly d 12 _).passed heq
  split
  · exact .error rfl
  split
  · exact .error rfl
  · exact blames_scanChunks none _

theorem Decoder.blames_new (d : Delivery) (readChunkBytes : Nat) :
    BlamesSource (Decoder.new d readChunkBytes) := by
  unfold Decoder.new
  split
  · next heq => exact (blames_readHeader d).passed heq
  · exact .ok _

theorem Decoder.blames_read (w : Decoder) : BlamesSource w.read.1 := by
  unfold Decoder.read
  split
  · exact .ok none
  split
  · exact .error rfl
  · exact .ok none
  · exact .ok _

end Wav

/-! ## Tags in front of a stream -/

namespace Mpeg

open Source

theorem Stop.ofSource_inHeader (stop : Stop) : stop.inHeader.ofSource = true := by
  cases stop <;> rfl

namespace TagReader

variable {bound : Nat} {α β : Type}

/-- Wherever it reads, if it fails, the source is to blame. -/
def Blames (read : TagReader bound α) : Prop := ∀ s, BlamesSource (read s)

namespace Blames

variable {read : TagReader bound α} {k : α → TagReader bound β}

theorem pure (a : α) : Blames (Pure.pure a : TagReader bound α) := fun _ => .ok _

theorem bind (h : Blames read) (hk : ∀ a, Blames (k a)) : Blames (read >>= k) := by
  intro s
  apply BlamesSource.bind (h s)
  intro r
  exact hk r.1 r.2

theorem throw {cause : PlaybackError} (h : cause.ofSource = true) :
    Blames (MonadExcept.throw cause : TagReader bound α) := fun _ => .error h

theorem lift {result : Except PlaybackError α} (h : BlamesSource result) :
    Blames (liftM result : TagReader bound α) := fun _ => h.bind fun _ => .ok _

theorem discard (h : Blames read) : Blames (Functor.discard read) := by
  rw [show Functor.discard read = read >>= fun _ => Pure.pure () from rfl]
  exact h.bind fun _ => .pure _

theorem either {c : Prop} [Decidable c] {read' : TagReader bound α} (h : Blames read) (h' : Blames read')
    (hk : ∀ a, Blames (k a)) : Blames (if c then read >>= k else read' >>= k) := by
  split
  · exact h.bind hk
  · exact h'.bind hk

theorem whenThen {c : Prop} [Decidable c] {k : Unit → TagReader bound β} {read : TagReader bound Unit}
    (hread : Blames read) (hk : ∀ u, Blames (k u)) : Blames (if c then read >>= k else k ()) := by
  split
  · exact hread.bind hk
  · exact hk ()

theorem refuseThen {c : Prop} [Decidable c] {k : Unit → TagReader bound β} {cause : PlaybackError}
    (hread : Blames read) (h : cause.ofSource = true) (hk : ∀ u, Blames (k u)) :
    Blames (if c then do let _ ← read; let u ← MonadExcept.throw cause; k u else k ()) := by
  split
  · exact hread.bind fun _ => (throw h).bind hk
  · exact hk ()

theorem times (n : Nat) (h : Blames read) : Blames (TagReader.times n read) := by
  induction n with
  | zero => exact .pure _
  | succ n ih => exact h.bind fun _ => ih.bind fun _ => .pure _

end Blames

theorem blames_get : Blames (get : TagReader bound (TagScope bound)) := fun _ => .ok _

theorem blames_modify (f : TagScope bound → TagScope bound) : Blames (modify f) := fun _ => .ok _

theorem blames_left : Blames (left : TagReader bound Nat) := blames_get.bind fun _ => .pure _

theorem blames_require (n : Nat) : Blames (require n : TagReader bound Unit) := by
  refine blames_left.bind fun left => ?_
  split
  · exact .throw rfl
  · exact .pure _

theorem blames_rawByte : Blames (rawByte : TagReader bound UInt8) := by
  intro s
  unfold rawByte
  split
  · exact .error rfl
  split
  · exact .ok _
  · exact .error (Stop.ofSource_inHeader _)

theorem blames_rawBlock (n : Nat) : Blames (rawBlock n : TagReader bound Bytes) := by
  intro s
  unfold rawBlock
  split
  · exact .error rfl
  split
  · exact .ok _
  · exact .error (Stop.ofSource_inHeader _)

theorem blames_byte : Blames (byte : TagReader bound UInt8) := by
  refine blames_get.bind fun s => blames_rawByte.bind fun b => ?_
  have hrest : ∀ b : UInt8, Blames (do modify fun s : TagScope bound => { s with last := b }; return b) := fun b =>
    (blames_modify _).bind fun _ => .pure _
  split
  · exact blames_rawByte.bind hrest
  · exact hrest b

theorem blames_field (n : Nat) : Blames (field n : TagReader bound Bytes) := by
  refine blames_get.bind fun s => ?_
  exact .whenThen (blames_require n) fun _ => blames_byte.times n

theorem blames_block (n : Nat) : Blames (block n : TagReader bound Bytes) := by
  refine blames_get.bind fun s => ?_
  split
  · exact blames_byte.times n
  · exact blames_rawBlock n

theorem blames_skip (n : Nat) : Blames (skip n : TagReader bound Unit) := by
  refine blames_get.bind fun s => ?_
  exact .whenThen (blames_require n) fun _ => (blames_rawByte.times n).discard

theorem blames_number (n : Nat) : Blames (number n : TagReader bound Nat) :=
  (blames_field n).bind fun _ => .pure _

theorem blames_sevenBits : Blames (sevenBits : TagReader bound Nat) :=
  (blames_byte.times 4).bind fun _ => .pure _

theorem blames_contentSize (v : TagVersion) : Blames (contentSize v : TagReader bound Nat) := by
  cases v with
  | two => exact blames_number 3
  | three => exact blames_number 4
  | four => exact blames_sevenBits

theorem blames_content (v : TagVersion) (flags size : Nat) : Blames (content v flags size : TagReader bound Bytes) := by
  unfold content
  refine .whenThen blames_byte.discard fun _ => .whenThen blames_sevenBits.discard fun _ => ?_
  exact (blames_block _).bind fun _ => .pure _

end TagReader

theorem blames_checkEncoding (content : Bytes) (reason : String) : BlamesSource (checkEncoding content reason) := by
  unfold checkEncoding
  split
  · exact .error rfl
  split
  · exact .ok _
  · exact .error rfl

theorem blames_checkLength (content : Bytes) (n : Nat) : BlamesSource (checkLength content n) := by
  unfold checkLength
  split
  · exact .error rfl
  · exact .ok _

theorem TagContent.blames_check (content : Bytes) (kind : TagContent) : BlamesSource (kind.check content) := by
  cases kind with
  | text | describedText | describedAddress => exact (blames_checkEncoding content _).map _
  | remark => exact (blames_checkEncoding content _).bind fun _ => blames_checkLength _ 3
  | picture => exact (blames_checkEncoding content _).bind fun _ => blames_checkLength _ 1
  | playCount =>
    simp only [TagContent.check]
    split
    · exact .error rfl
    split
    · exact .error rfl
    · exact .ok _
  | rating => exact blames_checkLength _ 1
  | any => exact .ok _

namespace TagReader

variable {bound : Nat}

theorem blames_frame (v : TagVersion) : Blames (frame v : TagReader bound Bool) := by
  refine (blames_field _).bind fun name => ?_
  split
  · exact .pure _
  refine (blames_contentSize v).bind fun size => .either (.pure 0) (blames_number 2) fun flags => ?_
  refine .whenThen (.throw (by rfl)) fun _ => ?_
  split
  · exact (blames_skip size).bind fun _ => .pure _
  · refine .refuseThen (blames_skip size) (by rfl) fun _ => .refuseThen (blames_skip size) (by rfl) fun _ => ?_
    exact (blames_content v flags size).bind fun _ => .whenThen (.lift (TagContent.blames_check _ _)) fun _ => .pure _

theorem blames_frames (v : TagVersion) (n : Nat) : Blames (frames v n : TagReader bound Unit) := by
  induction n with
  | zero => exact .pure _
  | succ n ih =>
    refine (blames_frame v).bind fun more => ?_
    split
    · refine blames_left.bind fun left => ?_
      split
      · exact ih
      · exact .pure _
    · exact .pure _

theorem blames_extensionField (n : Nat) (reason : String) :
    Blames (extensionField n reason : TagReader bound Unit) := by
  refine blames_byte.bind fun b => ?_
  exact .whenThen (.throw rfl) fun _ => (blames_byte.times n).discard

theorem blames_extension (v : TagVersion) : Blames (extension v : TagReader bound Unit) := by
  cases v with
  | two => exact .pure _
  | three =>
    refine (blames_number 4).bind fun size => (blames_number 2).bind fun flags => ?_
    refine (blames_number 4).discard.bind fun _ => .whenThen (.throw rfl) fun _ => ?_
    split
    · exact (blames_number 4).discard
    · exact .pure _
  | four =>
    refine blames_sevenBits.discard.bind fun _ => blames_byte.bind fun b => .whenThen (.throw rfl) fun _ => ?_
    refine blames_byte.bind fun flags => ?_
    have hrest : Blames (do
        if flags &&& 0x20 ≠ 0 then extensionField 5 "CRC32 extended flag has invalid size"
        if flags &&& 0x10 ≠ 0 then extensionField 1 "restrictions extended flag has invalid size" :
        TagReader bound Unit) := by
      refine .whenThen (blames_extensionField 5 _) fun _ => ?_
      split
      · exact blames_extensionField 1 _
      · exact .pure _
    dsimp only
    split
    · exact blames_byte.bind fun b => .whenThen (.throw rfl) fun _ => hrest
    · exact hrest

theorem blames_body (v : TagVersion) (extended : Bool) : Blames (body v extended : TagReader bound Unit) := by
  unfold body
  refine .whenThen (blames_extension v) fun _ => blames_left.bind fun _ => (blames_frames v _).bind fun _ => ?_
  exact (blames_modify _).bind fun _ => blames_left.bind fun _ => blames_skip _

end TagReader

theorem blames_passTag (d : Delivery) : BlamesSource (passTag d) := by
  unfold passTag
  split
  · split
    · exact .error rfl
    split
    · exact .error rfl
    split
    · exact .error rfl
    dsimp only
    split
    · next heq => exact (TagReader.blames_body _ _ _).passed heq
    · exact .ok _
  · exact .error rfl
  · exact .error (Stop.ofSource_inHeader _)

/-! ## Streams -/

theorem blames_findOpening (n : Nat) (previous : UInt8) (d : Delivery) :
    BlamesSource (findOpening n previous d) := by
  fun_induction findOpening n previous d
  case case1 | case2 => exact .error rfl
  case case3 => exact .error (Stop.ofSource_inHeader _)
  case case4 | case5 => exact .ok _
  case case6 ih | case7 ih => exact ih

theorem blames_findStream (d : Delivery) : BlamesSource (findStream d) := by
  fun_induction findStream d
  case case1 heq => exact (blames_findOpening _ _ _).passed heq
  case case2 => exact .ok _
  case case3 heq => exact (blames_passTag _).passed heq
  case case4 ih => exact ih

theorem blames_passLengths (size missing : Nat) (lengths : List DataLength) (place passed : Nat) :
    BlamesSource (passLengths size missing lengths place passed) := by
  fun_induction passLengths size missing lengths place passed
  case case1 => exact .ok _
  case case2 ih | case7 ih => exact ih
  case case3 | case4 | case5 | case6 => exact .error rfl

namespace Decoder

theorem blames_new (d : Delivery) : BlamesSource (Decoder.new d) := by
  unfold Decoder.new
  split
  · next heq => exact (blames_findStream d).passed heq
  split
  · exact .error (Stop.ofSource_inHeader _)
  split
  · exact .ok _
  · exact .error rfl

theorem blames_passData (f : Frame) (kept : Nat) : BlamesSource (passData f kept) := by
  unfold passData
  split
  · exact .error rfl
  · exact (blames_passLengths _ _ _ _ _).map _

theorem blames_decode (m : Decoder) (f : Frame) : BlamesSource (m.decode f).1 := by
  unfold Decoder.decode
  dsimp only
  split
  · exact .error rfl
  split
  · exact .error rfl
  split
  · next heq => exact (blames_passData f _).passed heq
  · exact .ok _

theorem blames_read (m : Decoder) : BlamesSource m.read.1 := by
  unfold Decoder.read
  split
  · exact .ok none
  · exact .error rfl
  · split
    · exact .ok _
    · next d f _ _ _ _ heq =>
      exact (blames_decode _ _).passed (congrArg Prod.fst heq)

end Decoder

end Mpeg

/-! ## Decoders of either kind -/

theorem Decoder.blames_new (format : AudioFormat) (source : Source.Delivery) (readChunkBytes : Nat) :
    BlamesSource (Decoder.new format source readChunkBytes) := by
  cases format with
  | mp3 => exact (Mpeg.Decoder.blames_new source).map Decoder.mp3
  | wav => exact (Wav.Decoder.blames_new source readChunkBytes).map Decoder.wav

theorem Decoder.blames_read (d : Decoder) : BlamesSource d.read.1 := by
  cases d with
  | mp3 state => exact state.blames_read
  | wav state => exact state.blames_read

theorem Decoder.ofSource_of_mem_runs (d : Decoder) {cause : PlaybackError} (h : .failed cause ∈ d.runs) :
    cause.ofSource = true := by
  fun_induction Decoder.runs d
  case case1 ih => exact ih (by simpa using h)
  case case2 => cases h
  case case3 d cause' d' hread =>
    obtain rfl : cause = cause' := by simpa using h
    exact d.blames_read cause (by rw [hread])

/-- **A decoder fails for a reason of the source.** -/
theorem ofSource_of_mem_feed {format : AudioFormat} {source : Source.Delivery} {readChunkBytes : Nat}
    {cause : PlaybackError} (h : .failed cause ∈ Event.feed format source readChunkBytes) :
    cause.ofSource = true := by
  unfold Event.feed at h
  split at h
  · next cause' hnew =>
    obtain rfl : cause = cause' := by simpa using h
    exact Decoder.blames_new _ _ _ cause hnew
  · next d _ => exact d.ofSource_of_mem_runs (by simpa using h)

end Playout
