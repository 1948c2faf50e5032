import Mathlib
import Playout.Proofs.Room.Tracks
import Playout.Proofs.Rtp.Layout
import Playout.Rtp.Room

/-!
# What a track sends

A track of a room over RTP sends one packet for each frame that is written to it, from the time it is published until it
is closed or the room is left. Every packet takes the clock of its stream on by one in sequence and by its samples in
time (`Stream.after`); both wrap. What else is asked of the room, and of its other tracks, does not show in the packets
(`Room.Serves.calls`).
-/

namespace Playout.Rtp

variable {link : Link} {h k : Handle} {s : Stream} {live : Bool}

/-! ## A stream on its own -/

namespace Stream

def packet (s : Stream) (frame : Frame) : Packet := (s.clock.next s.ssrc frame).1

def next (s : Stream) (frame : Frame) : Stream := { s with clock := (s.clock.next s.ssrc frame).2 }

def after (s : Stream) (frames : List Frame) : Stream := frames.foldl next s

def packets (s : Stream) : List Frame → List Packet
  | [] => []
  | frame :: rest => s.packet frame :: (s.next frame).packets rest

theorem packets_append (s : Stream) (frames more : List Frame) :
    s.packets (frames ++ more) = s.packets frames ++ (s.after frames).packets more := by
  induction frames generalizing s with
  | nil => rfl
  | cons frame frames ih => rw [List.cons_append, packets, packets, ih, List.cons_append, after, after, List.foldl_cons]

theorem after_append (s : Stream) (frames more : List Frame) :
    s.after (frames ++ more) = (s.after frames).after more := List.foldl_append

theorem length_packets (s : Stream) (frames : List Frame) : (s.packets frames).length = frames.length := by
  induction frames generalizing s with
  | nil => rfl
  | cons frame frames ih => rw [packets, List.length_cons, List.length_cons, ih]

theorem getElem?_packets (s : Stream) (frames : List Frame) (k : Nat) :
    (s.packets frames)[k]? = frames[k]?.map (s.after (frames.take k)).packet := by
  induction frames generalizing s k with
  | nil => rfl
  | cons frame frames ih =>
    cases k with
    | zero => rfl
    | succ k => exact ih (s.next frame) k

theorem length_serialize_packet (s : Stream) (frame : Frame) :
    (s.packet frame).serialize.length = 12 + 2 * frame.length := by
  have hpayload : (s.packet frame).payload.length = 2 * frame.length := Pcm.length_toBigEndian frame
  simp only [Packet.serialize, wordBytes, longBytes, List.length_append, List.length_cons, List.length_nil, hpayload]

theorem ssrc_after (s : Stream) (frames : List Frame) : (s.after frames).ssrc = s.ssrc := by
  induction frames generalizing s with
  | nil => rfl
  | cons frame frames ih => exact ih (s.next frame)

theorem sequence_after (s : Stream) (frames : List Frame) :
    (s.after frames).clock.sequence.toNat = (s.clock.sequence.toNat + frames.length) % 2 ^ 16 := by
  induction frames generalizing s with
  | nil => exact (Nat.mod_eq_of_lt s.clock.sequence.toNat_lt).symm
  | cons frame frames ih =>
    have hnext : (s.next frame).clock.sequence.toNat = (s.clock.sequence.toNat + 1) % 2 ^ 16 := UInt16.toNat_add _ _
    rw [after, List.foldl_cons, ← after, ih, hnext, List.length_cons]
    omega

theorem timestamp_after (s : Stream) (frames : List Frame) :
    (s.after frames).clock.timestamp.toNat =
      (s.clock.timestamp.toNat + (frames.map List.length).sum) % 2 ^ 32 := by
  induction frames generalizing s with
  | nil => exact (Nat.mod_eq_of_lt s.clock.timestamp.toNat_lt).symm
  | cons frame frames ih =>
    have hnext : (s.next frame).clock.timestamp.toNat =
        (s.clock.timestamp.toNat + frame.length % 2 ^ 32) % 2 ^ 32 := UInt32.toNat_add _ _
    rw [after, List.foldl_cons, ← after, ih, hnext, List.map_cons, List.sum_cons]
    omega

theorem first_after (s : Stream) (frames : List Frame) :
    (s.after frames).clock.first = (s.clock.first && frames.isEmpty) := by
  induction frames generalizing s with
  | nil => simp [after]
  | cons frame frames ih =>
    have hnext : (s.next frame).clock.first = false := rfl
    rw [after, List.foldl_cons, ← after, ih, hnext]
    simp

end Stream

/-- The packet is the `k`-th of a stream, which carries this one of the frames that were written. -/
structure Packet.IsNth (p : Packet) (start : Stream) (frames : List Frame) (k : Nat) (frame : Frame) : Prop where
  ssrc : p.ssrc = start.ssrc
  payloadType : p.payloadType = 97
  sequence : p.sequence.toNat = (start.clock.sequence.toNat + k) % 2 ^ 16
  timestamp : p.timestamp.toNat = (start.clock.timestamp.toNat + ((frames.take k).map List.length).sum) % 2 ^ 32
  marker : p.marker = true ↔ k = 0
  payload : Pcm.ofBigEndian p.payload = frame
  wire : parse p.serialize = .ok p

theorem Stream.isNth_packet {frames : List Frame} {k : Nat} {frame : Frame} (hfirst : s.clock.first = true)
    (hk : frames[k]? = some frame) : ((s.after (frames.take k)).packet frame).IsNth s frames k frame := by
  have hlength : (frames.take k).length = k := by
    rw [List.length_take_of_le]
    exact (List.getElem?_eq_some_iff.1 hk).1.le
  exact
    { ssrc := s.ssrc_after _
      payloadType := rfl
      sequence := (s.sequence_after _).trans (by rw [hlength])
      timestamp := s.timestamp_after _
      marker := by
        have hmarker : ((s.after (frames.take k)).packet frame).marker = (frames.take k).isEmpty := by
          rw [← Bool.true_and (frames.take k).isEmpty, ← hfirst, ← s.first_after]
          rfl
        rw [hmarker, List.isEmpty_iff_length_eq_zero, hlength]
      payload := Pcm.ofBigEndian_toBigEndian frame
      wire := parse_serialize _ (show audioPayloadType.toNat < 128 by decide) }

/-! ## A room -/

/-- The room was left, or the track was closed. -/
def saysClosed : DeliveryError → Bool
  | .roomClosed | .trackClosed _ => true
  | .io _ => false

theorem io_of_sendError {size : Nat} {cause : DeliveryError} (h : sendError? link size = some cause) :
    ∃ reason, cause = .io reason := by
  unfold sendError? at h
  split at h
  next => exact ⟨_, (Option.some.inj h).symm⟩
  next =>
    split at h
    next => exact ⟨_, (Option.some.inj h).symm⟩
    next =>
      split at h
      next => exact ⟨_, (Option.some.inj h).symm⟩
      next => cases h

inductive Call where
  | publish (name : String) (stream : Stream)
  | write (h : Handle) (frame : Frame)
  | closeTrack (h : Handle)
  | disconnect

namespace Call

/-- The frame that is written to a track. -/
def frameFor (h : Handle) : Call → Option Frame
  | .write k frame => if k = h then some frame else none
  | _ => none

/-- The track takes no more frames behind this. -/
def ends (h : Handle) : Call → Bool
  | .closeTrack k => k = h
  | .disconnect => true
  | _ => false

end Call

/-- The frames that are written to a track before it is closed or the room is left. -/
def written (h : Handle) (calls : List Call) : List Frame :=
  (calls.takeWhile fun c => !c.ends h).filterMap (Call.frameFor h)

theorem written_cons (h : Handle) (c : Call) (cs : List Call) :
    written h (c :: cs) = (c.frameFor h).toList ++ if c.ends h then [] else written h cs := by
  unfold written
  cases hends : c.ends h with
  | true =>
    have hnone : c.frameFor h = none := by cases c <;> first | rfl | cases hends
    simp [hends, hnone]
  | false => cases hframe : c.frameFor h <;> simp [hends, hframe]

namespace Room

variable {r : Room}

/-- What leaves on a call, with its track, and the room behind the call. -/
def call (r : Room) (link : Link) : Call → List (Handle × Packet) × Room
  | .publish name stream => ([], (r.publish name stream).2)
  | .write h frame => ((r.write link h frame).1.toOption.toList.map (h, ·), (r.write link h frame).2)
  | .closeTrack h => ([], r.closeTrack h)
  | .disconnect => ([], r.disconnect)

def calls (r : Room) (link : Link) : List Call → List (Handle × Packet) × Room
  | [] => ([], r)
  | c :: rest =>
    let (sent, r) := r.call link c
    let (more, r) := r.calls link rest
    (sent ++ more, r)

def on (h : Handle) (sent : List (Handle × Packet)) : List Packet := (sent.filter (·.1 = h)).map Prod.snd

theorem on_append (h : Handle) (sent more : List (Handle × Packet)) : on h (sent ++ more) = on h sent ++ on h more := by
  rw [on, on, on, List.filter_append, List.map_append]

/-- How a track stands: its stream, and whether it takes frames. -/
structure Serves (r : Room) (h : Handle) (s : Stream) (live : Bool) : Prop where
  stream : r.streams[h]? = some s
  takes : live = true → r.isClosed = false ∧ r.tracks.isClosed h = false
  refuses : live = false → r.isClosed = true ∨ r.tracks.hasClosed h = true

/-! ### Writing -/

theorem write_cases (r : Room) (link : Link) (k : Handle) (frame : Frame) :
    (∃ cause, saysClosed cause = true ∧ (r.isClosed = true ∨ r.tracks.isClosed k = true ∨ r.streams[k]? = none) ∧
      r.write link k frame = (.error cause, r)) ∨
      ∃ s result tracks, r.streams[k]? = some s ∧ r.isClosed = false ∧ r.tracks.isClosed k = false ∧
        r.write link k frame = (result, ⟨tracks, r.streams.set k (s.next frame)⟩) ∧
        (result = .ok (s.packet frame) ∧ tracks = r.tracks.record k frame ∨
          tracks = r.tracks ∧ ∃ cause, result = .error cause ∧
            sendError? link (s.packet frame).serialize.length = some cause) := by
  unfold write
  split
  next hclosed => exact .inl ⟨_, rfl, .inl hclosed, rfl⟩
  next hopen =>
    split
    next hclosed => exact .inl ⟨_, rfl, .inr (.inl hclosed), rfl⟩
    next htrack =>
      cases hs : r.streams[k]? with
      | none => exact .inl ⟨_, rfl, .inr (.inr rfl), rfl⟩
      | some s =>
        right
        simp only [Bool.not_eq_true] at hopen htrack
        dsimp only
        rw [← Stream.packet]
        cases hsend : sendError? link (s.packet frame).serialize.length with
        | none => exact ⟨s, _, _, rfl, hopen, htrack, rfl, .inl ⟨rfl, rfl⟩⟩
        | some cause => exact ⟨s, _, _, rfl, hopen, htrack, rfl, .inr ⟨rfl, cause, rfl, hsend⟩⟩

theorem write_of_saysClosed {frame : Frame} {cause : DeliveryError} (h : (r.write link k frame).1 = .error cause)
    (hcause : saysClosed cause = true) : (r.write link k frame).2 = r := by
  obtain ⟨_, -, -, hwrite⟩ | ⟨s, result, tracks, -, -, -, hwrite, hresult⟩ := r.write_cases link k frame
  · rw [hwrite]
  · rw [hwrite] at h
    obtain ⟨rfl, -⟩ | ⟨-, cause', rfl, hsend⟩ := hresult
    · cases h
    · obtain rfl : cause' = cause := Except.error.inj h
      obtain ⟨reason, rfl⟩ := io_of_sendError hsend
      cases hcause

namespace Serves

theorem write (hs : r.Serves h s true) {frame : Frame}
    (hsend : sendError? link (s.packet frame).serialize.length = none) :
    ∃ r', r.write link h frame = (.ok (s.packet frame), r') ∧ r'.Serves h (s.next frame) true := by
  obtain ⟨hopen, htrack⟩ := hs.takes rfl
  obtain ⟨_, -, hclosed, -⟩ | ⟨s', result, tracks, hs', -, -, hwrite, hresult⟩ := r.write_cases link h frame
  · simp [hopen, htrack, hs.stream] at hclosed
  · obtain rfl : s = s' := Option.some.inj (hs.stream.symm.trans hs')
    obtain ⟨rfl, rfl⟩ | ⟨-, cause, -, hsend'⟩ := hresult
    · refine ⟨_, hwrite, ?_, fun _ => ⟨hopen, ?_⟩, by simp⟩
      · rw [List.getElem?_set_self (List.getElem?_eq_some_iff.1 hs.stream).1]
      · rw [Playout.Room.isClosed_record, htrack]
    · cases hsend.symm.trans hsend'

theorem refused (hs : r.Serves h s false) (link : Link) (frame : Frame) :
    ∃ cause, saysClosed cause = true ∧ r.write link h frame = (.error cause, r) := by
  obtain ⟨cause, hcause, -, hwrite⟩ | ⟨s, result, tracks, -, hopen, htrack, -⟩ := r.write_cases link h frame
  · exact ⟨cause, hcause, hwrite⟩
  · rcases hs.refuses rfl with hclosed | hclosed
    · cases hopen.symm.trans hclosed
    · cases htrack.symm.trans (Playout.Room.isClosed_of_hasClosed hclosed)

theorem writeOther (hs : r.Serves h s live) (hk : k ≠ h) (link : Link) (frame : Frame) :
    (r.write link k frame).2.Serves h s live := by
  obtain ⟨_, -, -, hwrite⟩ | ⟨s', result, tracks, -, -, -, hwrite, hresult⟩ := r.write_cases link k frame
  · rw [hwrite]
    exact hs
  · rw [hwrite]
    obtain ⟨-, rfl⟩ | ⟨rfl, -⟩ := hresult
    · refine ⟨?_, fun hlive => ?_, fun hshut => ?_⟩
      · rw [List.getElem?_set_ne hk, hs.stream]
      · rw [Playout.Room.isClosed_record]
        exact hs.takes hlive
      · rw [Playout.Room.hasClosed_record]
        exact hs.refuses hshut
    · exact ⟨by rw [List.getElem?_set_ne hk, hs.stream], hs.takes, hs.refuses⟩

theorem publish (hs : r.Serves h s live) (name : String) (stream : Stream) :
    (r.publish name stream).2.Serves h s live := by
  unfold Room.publish
  split
  next => exact hs
  next =>
    refine ⟨?_, fun hlive => ⟨(hs.takes hlive).1, ?_⟩, fun hshut => (hs.refuses hshut).imp_right ?_⟩
    · rw [List.getElem?_append_left (List.getElem?_eq_some_iff.1 hs.stream).1, hs.stream]
    · exact Playout.Room.isClosed_create_of_open name (hs.takes hlive).2
    · exact Playout.Room.hasClosed_create name

theorem closeTrack (hs : r.Serves h s live) (k : Handle) :
    (r.closeTrack k).Serves h s (live && !decide (k = h)) := by
  refine ⟨hs.stream, fun hlive => ?_, fun hshut => ?_⟩
  · rw [Bool.and_eq_true, Bool.not_eq_true', decide_eq_false_iff_not] at hlive
    obtain ⟨hopen, htrack⟩ := hs.takes hlive.1
    refine ⟨hopen, ?_⟩
    rw [Room.closeTrack, Playout.Room.isClosed_closeTrack, htrack, decide_eq_false hlive.2]
    rfl
  · cases live with
    | false => exact (hs.refuses rfl).imp_right (Playout.Room.hasClosed_closeTrack k)
    | true =>
      obtain rfl : k = h := by simpa using hshut
      exact .inr (Playout.Room.hasClosed_closeTrack_self (hs.takes rfl).2)

theorem disconnect (hs : r.Serves h s live) : r.disconnect.Serves h s false :=
  ⟨hs.stream, by simp, fun _ => .inl (by simp [Room.disconnect, Room.isClosed, Playout.Room.disconnect])⟩

theorem call (hs : r.Serves h s live) (link : Link) (c : Call)
    (hsends : ∀ frame ∈ if live then (c.frameFor h).toList else [], sendError? link (12 + 2 * frame.length) = none) :
    let frames := if live then (c.frameFor h).toList else []
    on h (r.call link c).1 = s.packets frames ∧ (r.call link c).2.Serves h (s.after frames) (live && !c.ends h) := by
  cases c with
  | publish name stream =>
    have hserves := hs.publish name stream
    cases live <;> exact ⟨rfl, hserves⟩
  | closeTrack k =>
    have hserves := hs.closeTrack k
    cases live <;> exact ⟨rfl, hserves⟩
  | disconnect =>
    have hserves := hs.disconnect
    cases live <;> exact ⟨rfl, hserves⟩
  | write k frame =>
    by_cases hk : k = h
    · subst hk
      cases live with
      | false =>
        obtain ⟨cause, -, hwrite⟩ := hs.refused link frame
        simp only [Room.call, hwrite]
        exact ⟨rfl, hs⟩
      | true =>
        have hsend : sendError? link (s.packet frame).serialize.length = none := by
          rw [s.length_serialize_packet]
          exact hsends frame (by simp [Call.frameFor])
        obtain ⟨r', hwrite, hs'⟩ := hs.write hsend
        simp only [Room.call, hwrite, Call.frameFor, if_true]
        exact ⟨by simp [on, Except.toOption, Stream.packets], hs'⟩
    · have hs' := hs.writeOther hk link frame
      have hnone : (Call.write k frame).frameFor h = none := if_neg hk
      have hlive : (live && !(Call.write k frame).ends h) = live := Bool.and_true live
      simp only [Room.call, hnone, Option.toList_none, ite_self, hlive]
      refine ⟨?_, hs'⟩
      rw [on, List.filter_eq_nil_iff.2 (by simp [hk])]
      rfl

theorem calls (hs : r.Serves h s live) (link : Link) (cs : List Call)
    (hsends : ∀ frame ∈ if live then written h cs else [], sendError? link (12 + 2 * frame.length) = none) :
    let frames := if live then written h cs else []
    on h (r.calls link cs).1 = s.packets frames ∧
      (r.calls link cs).2.Serves h (s.after frames) (live && cs.all fun c => !c.ends h) := by
  induction cs generalizing r s live with
  | nil => cases live <;> exact ⟨rfl, hs⟩
  | cons c cs ih =>
    -- what is written is the frame of the first call and, unless the call ends the track, what is written behind it
    have hframes : (if live then written h (c :: cs) else []) = (if live then (c.frameFor h).toList else []) ++
        if live && !c.ends h then written h cs else [] := by
      rw [written_cons]
      cases live <;> cases c.ends h <;> simp
    rw [hframes] at hsends
    obtain ⟨hsent, hs'⟩ := hs.call link c fun frame hc => hsends frame (List.mem_append_left _ hc)
    obtain ⟨hmore, hs''⟩ := ih hs' fun frame hc => hsends frame (List.mem_append_right _ hc)
    simp only [Room.calls, on_append, hsent, hmore, hframes, Stream.packets_append, Stream.after_append, List.all_cons,
      ← Bool.and_assoc]
    exact ⟨trivial, hs''⟩

end Serves

/-! ### Rooms from the start -/

theorem length_streams_publish (hr : r.streams.length = r.tracks.tracks.length) (name : String) (stream : Stream) :
    (r.publish name stream).2.streams.length = (r.publish name stream).2.tracks.tracks.length := by
  unfold publish
  split
  next => exact hr
  next => simp [Playout.Room.create, hr]

theorem length_streams_call (hr : r.streams.length = r.tracks.tracks.length) (link : Link) (c : Call) :
    (r.call link c).2.streams.length = (r.call link c).2.tracks.tracks.length := by
  cases c with
  | publish name stream => exact length_streams_publish hr name stream
  | closeTrack k => simpa [call, closeTrack, Playout.Room.closeTrack, Playout.Room.update] using hr
  | disconnect => exact hr
  | write k frame =>
    obtain ⟨_, -, -, hwrite⟩ | ⟨s', result, tracks, -, -, -, hwrite, hresult⟩ := r.write_cases link k frame
    · rw [call, hwrite]
      exact hr
    · rw [call, hwrite]
      obtain ⟨-, rfl⟩ | ⟨rfl, -⟩ := hresult <;> simp [Playout.Room.record, Playout.Room.update, hr]

theorem length_streams_calls (hr : r.streams.length = r.tracks.tracks.length) (link : Link) (cs : List Call) :
    (r.calls link cs).2.streams.length = (r.calls link cs).2.tracks.tracks.length := by
  induction cs generalizing r with
  | nil => exact hr
  | cons c cs ih => exact ih (length_streams_call hr link c)

theorem serves_of_publish (hr : r.streams.length = r.tracks.tracks.length) {name : String} {r' : Room}
    (h : r.publish name s = (.ok k, r')) : r'.Serves k s true := by
  unfold publish at h
  split at h
  next => cases h
  next hopen =>
    simp only [Prod.mk.injEq, Except.ok.injEq] at h
    obtain ⟨rfl, rfl⟩ := h
    refine ⟨?_, fun _ => ⟨?_, Playout.Room.isClosed_create_self _ _⟩, by simp⟩
    · simp [Playout.Room.create, ← hr]
    · exact Bool.eq_false_of_not_eq_true hopen

/-- **The packets of a track follow its clock.** There is one for each frame written while track and room are open, with
the source, type, sequence number, time and marker that are due. A write that is refused sends nothing and moves no
clock. -/
theorem packets_follow_clock (link : Link) (before after : List Call) (name : String) (start : Stream)
    (hfirst : start.clock.first = true) {r : Room}
    (hpublish : (({} : Room).calls link before).2.publish name start = (.ok h, r))
    (hsends : ∀ frame ∈ written h after, sendError? link (12 + 2 * frame.length) = none) :
    let sent := on h (r.calls link after).1
    let r' := (r.calls link after).2
    sent.length = (written h after).length ∧
      (∀ k frame, (written h after)[k]? = some frame →
        ∃ p : Packet, sent[k]? = some p ∧ p.IsNth start (written h after) k frame) ∧
      (∀ frame cause, (r'.write link h frame).1 = .error cause → saysClosed cause = true →
        (r'.write link h frame).2 = r') ∧
      ((∃ c ∈ after, c.ends h = true) → ∀ frame, ∃ cause, saysClosed cause = true ∧
        (r'.write link h frame).1 = .error cause) := by
  have hserves := serves_of_publish (length_streams_calls rfl link before) hpublish
  obtain ⟨hsent, hserves'⟩ := hserves.calls link after hsends
  simp only [if_true] at hsent
  refine ⟨?_, ?_, fun frame cause => write_of_saysClosed, ?_⟩
  · rw [hsent, Stream.length_packets]
  · intro k frame hk
    refine ⟨_, ?_, Stream.isNth_packet hfirst hk⟩
    rw [hsent, Stream.getElem?_packets, hk, Option.map_some]
  · rintro ⟨c, hc, hends⟩ frame
    have hshut : (true && after.all fun c => !c.ends h) = false := by
      rw [Bool.true_and, List.all_eq_false]
      exact ⟨c, hc, by simp [hends]⟩
    rw [hshut] at hserves'
    obtain ⟨cause, hcause, hwrite⟩ := hserves'.refused link frame
    exact ⟨cause, hcause, congrArg Prod.fst hwrite⟩

/-- A track is written to twice and closed, and written to again. -/
def spoken : List Call := [.write 1 [5], .write 0 [1, 2], .write 1 [6, 7], .closeTrack 1, .write 1 [8]]

theorem packets_follow_clock_past_wrap :
    ∃ r : Room, (({} : Room).calls .up [.publish "other" ⟨3, 0, 0, true⟩]).2.publish "voice"
        ⟨7, 0xffff, 0xffffffff, true⟩ = (.ok 1, r) ∧
      (∃ p : Packet, (on 1 (r.calls .up spoken).1)[1]? = some p ∧ p.ssrc = 7 ∧ p.sequence.toNat = 0 ∧
        p.timestamp.toNat = 0 ∧ p.marker = false ∧ Pcm.ofBigEndian p.payload = [6, 7]) ∧
      ∃ cause, ((r.calls .up spoken).2.write .up 1 [9]).1 = .error cause := by
  have hsends : ∀ frame ∈ written 1 spoken, sendError? .up (12 + 2 * frame.length) = none := by decide
  obtain ⟨-, hpackets, -, hrefused⟩ := packets_follow_clock .up [.publish "other" ⟨3, 0, 0, true⟩] spoken "voice"
    ⟨7, 0xffff, 0xffffffff, true⟩ rfl rfl hsends
  obtain ⟨p, hp, hnth⟩ := hpackets 1 [6, 7] rfl
  obtain ⟨cause, -, hcause⟩ := hrefused ⟨.closeTrack 1, by simp [spoken], rfl⟩ [9]
  refine ⟨_, rfl, ⟨p, hp, hnth.ssrc, hnth.sequence, hnth.timestamp, ?_, hnth.payload⟩, cause, hcause⟩
  simpa using hnth.marker

end Room

end Playout.Rtp
