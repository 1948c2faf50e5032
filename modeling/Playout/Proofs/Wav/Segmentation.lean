import Mathlib
import Playout.Proofs.System.Delivery
import Playout.Proofs.Wav.Audio

/-!
# Segmentation is invisible

A clean delivery may be cut into pieces anywhere, and reads of it interrupted anywhere: which decoder is had of it, what
the reads of that decoder give and what it reports depend on the bytes of the delivery alone. Behind an opening these
are the runs of `Opening.runs` (`Decoder.opens`, `feed_of_opening`), and on any other stream there is a refusal
(`feed_of_refusal`). So two deliveries of the same bytes give one reel (`exists_reel_of_bytes`), and a playback that
ends with its source has delivered the frames that are cut from this reel (`Studio.Performs.eq_pieces`).
-/

namespace Playout

open Source

/-! ## Reads -/

namespace Wav

variable {d d' : Delivery} {audio : Bytes}

/-- The runs that are read of the audio behind an opening. -/
def Opening.runs (o : Opening) (readChunkBytes : Nat) (audio : Bytes) : List (List Sample) :=
  (Pcm.pieces (bufferSize readChunkBytes o.format.frameBytes) (audio.take o.format.dataBytes.toNat)).map
    fun piece => Pcm.ofLittleEndian (wholePart o.format.frameBytes piece)

namespace Decoder

variable {w : Decoder} {run : List Sample} {runs : List (List Sample)}

theorem Yields.tail (h : w.Yields (run :: runs)) : w.read.2.Yields runs := fun k => h (k + 1)

theorem opens (h : d.Clean) (o : Opening) (hbytes : d.bytes = o.bytes ++ audio) (readChunkBytes : Nat) :
    ∃ w, new d readChunkBytes = .ok w ∧ w.format = o.format ∧ w.Yields (o.runs readChunkBytes audio) := by
  obtain ⟨d₁, hclean, rfl, hnew⟩ := new_of_opening h o hbytes readChunkBytes
  exact ⟨_, hnew, rfl, yields_runs hclean (bufferSize_pos o readChunkBytes)⟩

theorem alike (h : d.Clean) (h' : d'.Clean) (hbytes : d.bytes = d'.bytes) (readChunkBytes : Nat) :
    (∃ cause, new d readChunkBytes = .error cause ∧ new d' readChunkBytes = .error cause) ∨
      ∃ w w' runs, new d readChunkBytes = .ok w ∧ new d' readChunkBytes = .ok w' ∧ w.format = w'.format ∧
        w.Yields runs ∧ w'.Yields runs := by
  obtain ⟨o, audio, hopening⟩ | ⟨cause, hrefusal⟩ := opening_or_refusal d.bytes
  · obtain ⟨w, hnew, hformat, hyields⟩ := opens h o hopening readChunkBytes
    obtain ⟨w', hnew', hformat', hyields'⟩ := opens h' o (hbytes ▸ hopening) readChunkBytes
    exact .inr ⟨w, w', _, hnew, hnew', hformat.trans hformat'.symm, hyields, hyields'⟩
  · exact .inl ⟨_, new_of_refusal h hrefusal readChunkBytes, new_of_refusal h' (hbytes ▸ hrefusal) readChunkBytes⟩

end Decoder

end Wav

/-! ## Reports -/

theorem Decoder.runs_of_yields {w : Wav.Decoder} {runs : List (List Sample)} (h : w.Yields runs) :
    (Decoder.wav w).runs = runs.map .samples := by
  induction runs generalizing w with
  | nil =>
    have hread : (Decoder.wav w).read.1 = .ok none := h 0
    rw [Decoder.runs]
    split
    · next heq => cases (congrArg Prod.fst heq).symm.trans hread
    · rfl
    · next heq => cases (congrArg Prod.fst heq).symm.trans hread
  | cons run runs ih =>
    have hread : (Decoder.wav w).read = (.ok (some run), .wav w.read.2) := Prod.ext (h 0) rfl
    rw [Decoder.runs]
    split
    · next heq =>
      cases heq.symm.trans hread
      rw [ih h.tail, List.map_cons]
    · next heq => cases heq.symm.trans hread
    · next heq => cases heq.symm.trans hread

namespace Wav

variable {d d' : Delivery} {audio : Bytes}

theorem feed_of_opening (h : d.Clean) (o : Opening) (hbytes : d.bytes = o.bytes ++ audio) (readChunkBytes : Nat) :
    Event.feed .wav d readChunkBytes =
      (Reel.played ⟨o.format.sampleRate, o.format.channels⟩ (o.runs readChunkBytes audio) none).reports := by
  obtain ⟨w, hnew, hformat, hyields⟩ := Decoder.opens h o hbytes readChunkBytes
  simp [Event.feed, Playout.Decoder.new, hnew, Except.map, Playout.Decoder.spec, Decoder.spec, hformat,
    Decoder.runs_of_yields hyields, Reel.reports]

theorem feed_of_refusal {cause : FormatError} (h : d.Clean) (hrefusal : Refusal d.bytes cause) (readChunkBytes : Nat) :
    Event.feed .wav d readChunkBytes = (Reel.refused (.format cause)).reports := by
  simp [Event.feed, Playout.Decoder.new, Decoder.new_of_refusal h hrefusal readChunkBytes, Except.map, Reel.reports]

/-- What is reported on clean deliveries of the same bytes is one reel, which does not fail behind its parameters. -/
theorem exists_reel_of_bytes (h : d.Clean) (h' : d'.Clean) (hbytes : d.bytes = d'.bytes) (readChunkBytes : Nat) :
    ∃ reel : Reel, Event.feed .wav d readChunkBytes = reel.reports ∧
      Event.feed .wav d' readChunkBytes = reel.reports ∧
      ((∃ cause, reel = .refused cause) ∨ ∃ spec runs, reel = .played spec runs none) := by
  obtain ⟨o, audio, hopening⟩ | ⟨cause, hrefusal⟩ := opening_or_refusal d.bytes
  · exact ⟨_, feed_of_opening h o hopening readChunkBytes, feed_of_opening h' o (hbytes ▸ hopening) readChunkBytes,
      .inr ⟨_, _, rfl⟩⟩
  · exact ⟨_, feed_of_refusal h hrefusal readChunkBytes, feed_of_refusal h' (hbytes ▸ hrefusal) readChunkBytes,
      .inl ⟨_, rfl⟩⟩

end Wav

/-! ## Playbacks -/

/-- In a studio a playback of this gain had these reports to hear, ended because all of its source was played or its
decoder failed, and delivered these frames. -/
def Studio.Performs (st : Studio) (reports : List Event) (gain : Pcm.Gain) (frames : List Frame) : Prop :=
  ∃ t ∈ st.tasks, t.volume = gain ∧ st.heardBy t.slot <+: reports.map some ++ [none] ∧
    (∃ ending, t.ending? = some ending ∧
      ((∃ count, ending = .ok (.completed count)) ∨
        ∃ cause, ending = .error cause ∧ some (.failed cause) ∈ st.heardBy t.slot)) ∧
    st.framesBy t.slot = frames

theorem Reel.refused_of_failed {reel : Reel} {heard : List (Option Event)} {cause : PlaybackError}
    (hreel : (∃ cause, reel = .refused cause) ∨ ∃ spec runs, reel = .played spec runs none)
    (hheard : heard <+: reel.cues) (hmem : some (.failed cause) ∈ heard) : ∃ cause, reel = .refused cause := by
  refine hreel.resolve_right ?_
  rintro ⟨spec, runs, rfl⟩
  simpa [cues, reports] using hheard.subset hmem

theorem Studio.Performs.eq_pieces {config : Config} {st : Studio} (hst : Studio.Reachable config st) {reel : Reel}
    {gain : Pcm.Gain} {frames : List Frame}
    (hreel : (∃ cause, reel = .refused cause) ∨ ∃ spec runs, reel = .played spec runs none)
    (h : st.Performs reel.reports gain frames) :
    frames = Pcm.pieces config.frameSamples (reel.conditioned gain) := by
  obtain ⟨t, ht, rfl, hheard, ⟨ending, hended, hsource⟩, rfl⟩ := h
  have hsettled := (hst.onCourse.course t ht reel hheard).settled_of (Task.outcome_of_ending hended)
  cases hsettled with
  | completed hframes => exact hframes
  | cancelled => simp at hsource
  | reported hframes hfailed =>
    obtain ⟨cause, rfl⟩ := Reel.refused_of_failed hreel hheard ((hfailed _).2 rfl)
    rw [hframes, Reel.conditioned, Pcm.pieces_nil, Pcm.wholeFrames_of_lt config.frameSamples_pos]
  | failed _ hfailed => simp [hfailed] at hsource

namespace Wav

/-- **Segmentation is invisible.** On clean deliveries of the same bytes, in whatever pieces, a decoder opens with the
same parameters or refuses for the same reason, all reads give the same, and playbacks of the same gain deliver the same
frames. -/
theorem segmentation_is_invisible {d d' : Delivery} (h : d.Clean) (h' : d'.Clean) (hbytes : d.bytes = d'.bytes)
    (readChunkBytes : Nat) :
    (Decoder.new d readChunkBytes).map (·.format) = (Decoder.new d' readChunkBytes).map (·.format) ∧
    (∀ w w', Decoder.new d readChunkBytes = .ok w → Decoder.new d' readChunkBytes = .ok w' →
      ∀ k, w.nthRead k = w'.nthRead k) ∧
    Event.feed .wav d readChunkBytes = Event.feed .wav d' readChunkBytes ∧
    ∀ (config : Config) (moves moves' : List Move) (n n' : Nat) (st st' : Studio) (gain : Pcm.Gain)
      (frames frames' : List Frame),
      ((System.new config).run moves).studio n = some st → ((System.new config).run moves').studio n' = some st' →
      st.Performs (Event.feed .wav d readChunkBytes) gain frames →
      st'.Performs (Event.feed .wav d' readChunkBytes) gain frames' → frames = frames' := by
  obtain ⟨reel, hfeed, hfeed', hreel⟩ := exists_reel_of_bytes h h' hbytes readChunkBytes
  refine ⟨?_, ?_, hfeed.trans hfeed'.symm, ?_⟩
  · obtain ⟨cause, hnew, hnew'⟩ | ⟨w, w', runs, hnew, hnew', hformat, -⟩ := Decoder.alike h h' hbytes readChunkBytes
    · rw [hnew, hnew']
    · rw [hnew, hnew', Except.map, Except.map, hformat]
  · intro w w' hw hw' k
    obtain ⟨cause, hnew, -⟩ | ⟨w₁, w₁', runs, hnew, hnew', -, hyields, hyields'⟩ :=
      Decoder.alike h h' hbytes readChunkBytes
    · cases hw.symm.trans hnew
    · cases hw.symm.trans hnew
      cases hw'.symm.trans hnew'
      rw [hyields k, hyields' k]
  · intro config moves moves' n n' st st' gain frames frames' hst hst' hplayed hplayed'
    rw [hfeed] at hplayed
    rw [hfeed'] at hplayed'
    rw [hplayed.eq_pieces (System.reachable_of_run hst) hreel, hplayed'.eq_pieces (System.reachable_of_run hst') hreel]

/-- Every byte comes alone, behind an interruption and before a piece without bytes. -/
def bytewise (bytes : Bytes) : List Arrival :=
  bytes.flatMap fun b => [.fault ⟨"interrupted", true⟩, .chunk [b], .chunk []]

theorem clean_bytewise (bytes : Bytes) : (Delivery.ofArrivals (bytewise bytes)).Clean := by
  intro arrival hmem
  obtain ⟨b, -, hb⟩ := List.mem_flatMap.1 hmem
  fin_cases hb <;> rfl

theorem bytes_bytewise (bytes : Bytes) : (Delivery.ofArrivals (bytewise bytes)).bytes = bytes := by
  rw [Delivery.bytes_ofArrivals, bytewise, List.flatMap_assoc]
  exact List.flatMap_singleton' bytes

/-- A stream of two samples in one piece. -/
def pair : Delivery := .ofArrivals [.chunk (canonical 1 16000 [7, 8])]

theorem clean_pair : pair.Clean := by
  intro arrival hmem
  rw [List.mem_singleton.1 hmem]
  rfl

theorem bytes_pair : pair.bytes = canonical 1 16000 [7, 8] := by
  rw [pair, Delivery.bytes_ofArrivals, List.flatMap_singleton, Arrival.bytes]

theorem feed_pair : Event.feed .wav pair 4096 = [.spec ⟨16000, 1⟩, .samples [7, 8]] := by
  have hsamples : 2 * ([7, 8] : List Sample).length < 2 ^ 32 := by decide
  obtain ⟨o, hcanonical, hchannels, hrate, hsize⟩ := canonical_eq (.inl rfl : 1 = 1 ∨ 1 = 2) (by decide : 0 < 16000)
    (by decide) hsamples
  have hspec : o.format.sampleRate = 16000 ∧ o.format.channels = 1 :=
    ⟨UInt32.toNat_inj.1 hrate, UInt16.toNat_inj.1 hchannels⟩
  have hframe : o.format.frameBytes = 2 := by
    rw [Format.frameBytes, hspec.2]
    rfl
  have hdata : o.format.dataBytes.toNat = 4 := o.toNat_dataBytes.trans hsize
  have hruns : o.runs 4096 (Pcm.toLittleEndian [7, 8]) = [[7, 8]] := by
    rw [Opening.runs, hframe, hdata, Pcm.pieces_of_ne_nil (by decide) (by decide), List.drop_of_length_le (by decide),
      Pcm.pieces_nil]
    rfl
  rw [feed_of_opening clean_pair o (bytes_pair.trans hcanonical), hspec.1, hspec.2, hruns]
  rfl

theorem segmentation_is_invisible_bytewise :
    ∃ (cut : Delivery) (st : Studio) (gain : Pcm.Gain) (frames : List Frame),
      cut = .ofArrivals (bytewise (canonical 1 16000 [7, 8])) ∧ pair.Clean ∧ cut.Clean ∧ pair.bytes = cut.bytes ∧
      (Decoder.new pair 4096).map (·.format) = (Decoder.new cut 4096).map (·.format) ∧
      ((System.new .terse).run Move.once).studio 0 = some st ∧ st.Performs (Event.feed .wav pair 4096) gain frames ∧
      ∀ moves n st' frames', ((System.new .terse).run moves).studio n = some st' →
        st'.Performs (Event.feed .wav cut 4096) gain frames' → frames = frames' := by
  have hrun : (((System.new .terse).run Move.once).studio 0).map
      (fun st => (st.tasks.map fun t => (t.slot, t.ending?), st.heardBy 1)) =
      some ([(1, some (.ok (.completed 2)))], [some (.spec ⟨16000, 1⟩), some (.samples [7, 8]), none]) := by
    decide +kernel
  obtain ⟨st, hst, hrun⟩ := Option.map_eq_some_iff.1 hrun
  obtain ⟨htasks, hheard⟩ := Prod.mk.inj hrun
  obtain ⟨t, htask, hended⟩ := List.map_eq_singleton_iff.1 htasks
  obtain ⟨hslot, hended⟩ := Prod.mk.inj hended
  have hperforms : st.Performs (Event.feed .wav pair 4096) t.volume (st.framesBy t.slot) := by
    refine ⟨t, htask ▸ List.mem_singleton_self t, rfl, ?_, ⟨_, hended, .inl ⟨2, rfl⟩⟩, rfl⟩
    rw [hslot, hheard, feed_pair]
    exact List.prefix_rfl
  have hcut := clean_bytewise (canonical 1 16000 [7, 8])
  have hbytes : pair.bytes = (Delivery.ofArrivals (bytewise (canonical 1 16000 [7, 8]))).bytes := by
    rw [bytes_pair, bytes_bytewise]
  obtain ⟨hformat, -, -, hframes⟩ := segmentation_is_invisible clean_pair hcut hbytes 4096
  refine ⟨_, st, _, _, rfl, clean_pair, hcut, hbytes, hformat, hst, hperforms, ?_⟩
  intro moves n st' frames' hst' hperforms'
  exact hframes .terse Move.once moves 0 n st st' _ _ _ hst hst' hperforms hperforms'

end Wav

end Playout
