import Mathlib
import Playout.Proofs.Rtp.Outbound
import Playout.Proofs.Session.RoomAudio
import Playout.Rtp.Joined

/-!
# What a session hears

The audio that datagrams bring to a session is offered to its queue, in the order in which they come in, and nothing
else that comes in leaves a trace (`Joined.events_hear`). Where the queue has room for all of it, what comes out of the
queue and what still waits in it is what was offered (`Joined.flow`). So the frames that a track sends are those that
are received.
-/

namespace Playout.Rtp

/-- The audio of a datagram, low byte first, if it is a packet of audio. -/
def audioIn (datagram : Bytes) : Option Bytes :=
  match parse datagram with
  | .ok p => if p.payloadType = 97 then some (Pcm.swapPairs p.payload) else none
  | .error _ => none

/-- What happens at the queue of a session. -/
inductive QueueEvent where
  | arrives (bytes : Bytes)
  /-- The consumer asks for the receiving end. -/
  | take
  | receive
  | dropReceiver
deriving DecidableEq

namespace QueueEvent

def bytes? : QueueEvent → Option Bytes
  | .arrives bytes => some bytes
  | _ => none

def arrived (es : List QueueEvent) : List Bytes := es.filterMap bytes?

/-- A datagram that arrives has at most 2048 bytes. -/
def isShort (e : QueueEvent) : Bool := e.bytes?.all (·.length ≤ 2048)

def audio? (e : QueueEvent) : Option Bytes := e.bytes?.bind audioIn

/-- A datagram arrives that is malformed or brings something else than audio. -/
def isJunk : QueueEvent → Bool
  | .arrives datagram => (audioIn datagram).isNone
  | _ => false

/-- The event with the audio of a datagram in place of the datagram. -/
def decoded : QueueEvent → Option QueueEvent
  | .arrives datagram => (audioIn datagram).map .arrives
  | e => some e

theorem decoded_eq_none {e : QueueEvent} : e.decoded = none ↔ e.isJunk = true := by
  cases e <;> simp [decoded, isJunk]

theorem filterMap_decoded (es : List QueueEvent) :
    es.filterMap decoded = (es.filter fun e => !e.isJunk).filterMap decoded := by
  induction es with
  | nil => rfl
  | cons e es ih =>
    cases hjunk : e.isJunk with
    | true => rw [List.filterMap_cons_none (decoded_eq_none.2 hjunk), ih, List.filter_cons_of_neg (by simp [hjunk])]
    | false => rw [List.filter_cons_of_pos (by simp [hjunk]), List.filterMap_cons, List.filterMap_cons, ih]

end QueueEvent

namespace Joined

variable {j : Joined}

def withAudio (j : Joined) (audio : RoomAudio) : Joined := { j with session := { j.session with audio } }

def offer (j : Joined) (payload : Bytes) : Joined :=
  { j.withAudio (j.session.audio.offer payload).2 with
    counters := j.counters.countOffer (j.session.audio.offer payload).1 }

def hear (j : Joined) (datagram : Bytes) : Joined := j.inbound [datagram]

/-- What the consumer receives in an event, and what is behind it; `arrival` says what comes of bytes that arrive. -/
def event (arrival : Joined → Bytes → Joined) (j : Joined) : QueueEvent → List Bytes × Joined
  | .arrives bytes => ([], arrival j bytes)
  | .take => ([], j.withAudio j.session.audio.take.2)
  | .receive => (j.session.audio.receive.1.toList, j.withAudio j.session.audio.receive.2)
  | .dropReceiver => ([], j.withAudio j.session.audio.dropReceiver)

def events (arrival : Joined → Bytes → Joined) (j : Joined) : List QueueEvent → List Bytes × Joined
  | [] => ([], j)
  | e :: rest =>
    let (received, j) := j.event arrival e
    let (more, j) := j.events arrival rest
    (received ++ more, j)

theorem events_cons (arrival : Joined → Bytes → Joined) (j : Joined) (e : QueueEvent) (es : List QueueEvent) :
    j.events arrival (e :: es) = ((j.event arrival e).1 ++ ((j.event arrival e).2.events arrival es).1,
      ((j.event arrival e).2.events arrival es).2) := rfl

/-- The room is open, and there is a network. -/
def Open (j : Joined) : Prop := j.link = .up ∧ j.room.isClosed = false

/-! ## Hearing is offering -/

theorem audioOf?_eq {datagram : Bytes} (hsize : datagram.length ≤ 2048) : audioOf? datagram = audioIn datagram := by
  rw [audioOf?, datagramLimit, List.take_of_length_le hsize]
  rfl

theorem hear_eq (hopen : j.Open) {datagram : Bytes} (hsize : datagram.length ≤ 2048) :
    j.hear datagram = ((audioIn datagram).map j.offer).getD j := by
  have hgo : ¬(j.link = .down ∨ j.room.isClosed = true) := by simp [hopen.1, hopen.2]
  rw [hear, inbound, if_neg hgo]
  simp only [List.foldl_cons, List.foldl_nil, Rtp.receive, audioOf?_eq hsize]
  cases audioIn datagram <;> rfl

theorem open_event (hopen : j.Open) {e : QueueEvent} (hshort : e.isShort = true) :
    (j.event hear e).2.Open := by
  cases e with
  | arrives datagram =>
    rw [event, hear_eq hopen (of_decide_eq_true hshort)]
    cases audioIn datagram <;> exact hopen
  | take | receive | dropReceiver => exact hopen

theorem events_hear (hopen : j.Open) {es : List QueueEvent} (hshort : ∀ e ∈ es, e.isShort = true) :
    j.events hear es = j.events offer (es.filterMap QueueEvent.decoded) := by
  induction es generalizing j with
  | nil => rfl
  | cons e es ih =>
    obtain ⟨hshort, hshorts⟩ := List.forall_mem_cons.1 hshort
    have hrest := ih (open_event hopen hshort) hshorts
    rw [events_cons, hrest]
    cases e with
    | arrives datagram =>
      rw [event, hear_eq hopen (of_decide_eq_true hshort)]
      cases haudio : audioIn datagram with
      | none =>
        rw [List.filterMap_cons_none (by simp [QueueEvent.decoded, haudio])]
        rfl
      | some payload =>
        rw [List.filterMap_cons_some (by simp [QueueEvent.decoded, haudio]; rfl)]
        rfl
    | take | receive | dropReceiver => rfl

/-! ## A queue with room -/

theorem waiting_offer {q : RoomAudio} {payload : Bytes} (hsome : payload ≠ []) (hwhole : payload.length % 2 = 0)
    (hreceiver : q.receiver ≠ .gone) (hroom : q.waiting.length < q.capacity) :
    (q.offer payload).2.waiting = q.waiting ++ [payload] ∧ (q.offer payload).2.receiver = q.receiver := by
  have hpayload : RoomAudio.wholeSamples payload = payload := if_neg (by omega)
  rcases q.offer_cases payload with ⟨hnone | hgone, -⟩ | ⟨-, -, -, heq⟩ | ⟨-, -, hfull, -⟩
  · exact absurd (hpayload.symm.trans hnone) hsome
  · exact absurd hgone hreceiver
  · rw [heq, hpayload]
    exact ⟨rfl, rfl⟩
  · exact absurd hroom hfull.not_gt

/-- Whenever audio arrives, the queue has room for it. -/
def hasRoom (j : Joined) : List QueueEvent → Bool
  | [] => true
  | e :: es =>
    (e.audio?.isNone || decide (j.session.audio.waiting.length < j.session.audio.capacity)) &&
      (j.event hear e).2.hasRoom es

/-- In one event, what comes out of the queue and what waits in it are what was there and what arrived. -/
theorem flow_event (hopen : j.Open) {e : QueueEvent} (hshort : e.isShort = true)
    (hreceiver : j.session.audio.receiver ≠ .gone) (hkeep : e ≠ .dropReceiver)
    (hroom : e.audio?.isSome = true → j.session.audio.waiting.length < j.session.audio.capacity)
    (hwhole : ∀ payload, e.audio? = some payload → payload ≠ [] ∧ payload.length % 2 = 0) :
    (j.event hear e).1 ++ (j.event hear e).2.session.audio.waiting = j.session.audio.waiting ++ e.audio?.toList ∧
      (j.event hear e).2.session.audio.receiver ≠ .gone := by
  cases e with
  | arrives datagram =>
    rw [event, hear_eq hopen (of_decide_eq_true hshort)]
    cases haudio : audioIn datagram with
    | none =>
      have hnone : (QueueEvent.arrives datagram).audio? = none := haudio
      simpa [hnone] using hreceiver
    | some payload =>
      have hsome : (QueueEvent.arrives datagram).audio? = some payload := haudio
      have hfits := hroom (hsome ▸ rfl)
      obtain ⟨hne, heven⟩ := hwhole payload hsome
      obtain ⟨hwaiting, hreceiver'⟩ := waiting_offer hne heven hreceiver hfits
      rw [hsome]
      exact ⟨hwaiting, hreceiver' ▸ hreceiver⟩
  | take =>
    have hnone : QueueEvent.take.audio? = none := rfl
    rw [hnone, Option.toList_none, List.append_nil]
    exact ⟨RoomAudio.waiting_take _, RoomAudio.receiver_take hreceiver⟩
  | receive =>
    have hnone : QueueEvent.receive.audio? = none := rfl
    rw [hnone, Option.toList_none, List.append_nil]
    exact ⟨RoomAudio.receive_append_waiting _, (RoomAudio.receiver_receive _).trans_ne hreceiver⟩
  | dropReceiver => exact absurd rfl hkeep

theorem flow (hopen : j.Open) {es : List QueueEvent} (hshort : ∀ e ∈ es, e.isShort = true)
    (hreceiver : j.session.audio.receiver ≠ .gone) (hkeep : .dropReceiver ∉ es) (hroom : j.hasRoom es = true)
    (hwhole : ∀ payload ∈ es.filterMap QueueEvent.audio?, payload ≠ [] ∧ payload.length % 2 = 0) :
    (j.events hear es).1 ++ (j.events hear es).2.session.audio.waiting =
      j.session.audio.waiting ++ es.filterMap QueueEvent.audio? := by
  induction es generalizing j with
  | nil => simp [events]
  | cons e es ih =>
    obtain ⟨hne, hkeep'⟩ := not_or.1 (List.mem_cons.not.1 hkeep)
    obtain ⟨hshort, hshorts⟩ := List.forall_mem_cons.1 hshort
    simp only [hasRoom, Bool.and_eq_true, Bool.or_eq_true, decide_eq_true_eq, Option.isNone_iff_eq_none] at hroom
    obtain ⟨hflow, hreceiver'⟩ := flow_event hopen hshort hreceiver (Ne.symm hne)
      (fun haudio => hroom.1.resolve_left (Option.isSome_iff_ne_none.1 haudio))
      fun payload haudio => hwhole payload (List.mem_filterMap.2 ⟨e, List.mem_cons_self, haudio⟩)
    have hcons : (e :: es).filterMap QueueEvent.audio? = e.audio?.toList ++ es.filterMap QueueEvent.audio? := by
      cases haudio : e.audio? <;> simp [haudio]
    -- the rest flows out of the queue that `e` leaves
    have hrest := ih (open_event hopen hshort) hshorts hreceiver' hkeep' hroom.2 fun payload hpayload =>
      hwhole payload (hcons ▸ List.mem_append_right _ hpayload)
    rw [events_cons, List.append_assoc, hrest, ← List.append_assoc, hflow, List.append_assoc, hcons]

/-! ## From a track to a session -/

theorem audioIn_packet (s : Stream) (frame : Frame) :
    audioIn (s.packet frame).serialize = some (Pcm.toLittleEndian frame) := by
  have hparse : parse (s.packet frame).serialize = .ok (s.packet frame) :=
    parse_serialize _ (show audioPayloadType.toNat < 128 by decide)
  have htype : (s.packet frame).payloadType = 97 := rfl
  have hpayload : (s.packet frame).payload = Pcm.toBigEndian frame := rfl
  rw [audioIn, hparse]
  simp only [htype, if_true, hpayload, Pcm.swapPairs_toBigEndian]

theorem filterMap_packets (s : Stream) (frames : List Frame) :
    ((s.packets frames).map Packet.serialize).filterMap audioIn = frames.map Pcm.toLittleEndian := by
  induction frames generalizing s with
  | nil => rfl
  | cons frame frames ih =>
    rw [Stream.packets, List.map_cons, List.filterMap_cons_some (audioIn_packet s frame), ih, List.map_cons]

theorem filterMap_audio? (es : List QueueEvent) :
    es.filterMap QueueEvent.audio? =
      ((QueueEvent.arrived es).filter fun d => (audioIn d).isSome).filterMap audioIn := by
  rw [QueueEvent.arrived, List.filterMap_filter, List.filterMap_filterMap]
  apply List.filterMap_congr
  intro e _
  cases e with
  | arrives datagram => cases haudio : audioIn datagram <;> simp [QueueEvent.audio?, QueueEvent.bytes?, haudio]
  | take | receive | dropReceiver => rfl

/-- **A session hears the audio that is sent to it, and nothing else.** Datagrams do to the queue and the counters what
offering the audio they bring does, and others might as well be left out. What a track sends arrives frame by frame if
there is room. -/
theorem hears_what_is_sent (j : Joined) (hopen : j.Open) (es : List QueueEvent)
    (hshort : ∀ e ∈ es, e.isShort = true) :
    j.events hear es = j.events offer (es.filterMap QueueEvent.decoded) ∧
      (∀ es' : List QueueEvent, (∀ e ∈ es', e.isShort = true) →
        (es'.filter fun e => !e.isJunk) = es.filter (fun e => !e.isJunk) → j.events hear es' = j.events hear es) ∧
      ∀ (before after : List Call) (name : String) (start : Stream) (h : Handle) (r : Room),
        (({} : Room).calls .up before).2.publish name start = (.ok h, r) →
        (∀ frame ∈ written h after, 1 ≤ frame.length ∧ frame.length ≤ 1018) →
        (QueueEvent.arrived es).filter (fun d => (audioIn d).isSome) =
          (Room.on h (r.calls .up after).1).map Packet.serialize →
        j.session.audio.waiting = [] → j.session.audio.receiver ≠ .gone → .dropReceiver ∉ es → j.hasRoom es = true →
        ((j.events hear es).1 ++ (j.events hear es).2.session.audio.waiting).map Pcm.ofLittleEndian =
          written h after := by
  refine ⟨events_hear hopen hshort, ?_, ?_⟩
  · intro es' hshort' hsame
    rw [events_hear hopen hshort', events_hear hopen hshort, QueueEvent.filterMap_decoded, hsame,
      ← QueueEvent.filterMap_decoded]
  · intro before after name start h r hpublish hframes hsent hempty hreceiver hkeep hroom
    have hsends : ∀ frame ∈ written h after, sendError? .up (12 + 2 * frame.length) = none := by
      intro frame hframe
      obtain ⟨-, hle⟩ := hframes frame hframe
      have hdatagram : ¬longestDatagram < 12 + 2 * frame.length := by
        rw [longestDatagram]
        omega
      have hsent : ¬longestSent < 12 + 2 * frame.length := by
        rw [longestSent]
        omega
      rw [sendError?, if_neg hdatagram, if_neg hsent]
    have hserves := Room.serves_of_publish (Room.length_streams_calls rfl .up before) hpublish
    obtain ⟨hpackets, -⟩ := hserves.calls .up after hsends
    have haudio : es.filterMap QueueEvent.audio? = (written h after).map Pcm.toLittleEndian := by
      rw [filterMap_audio?, hsent, hpackets, if_pos rfl, filterMap_packets]
    have hflow := flow hopen hshort hreceiver hkeep hroom (by
      intro payload hpayload
      rw [haudio] at hpayload
      obtain ⟨frame, hframe, rfl⟩ := List.mem_map.1 hpayload
      obtain ⟨hle, -⟩ := hframes frame hframe
      have hlength := Pcm.length_toLittleEndian frame
      refine ⟨List.ne_nil_of_length_pos ?_, ?_⟩ <;> omega)
    rw [hflow, hempty, List.nil_append, haudio, List.map_map]
    simp [Function.comp_def, Pcm.ofLittleEndian_toLittleEndian]

/-- A session whose queue holds one payload. -/
def listening : Joined where
  session := .new { roomAudioCapacity := 1 } "room"
  remote := .ipv4 0x7f000001 5004
  link := .up

/-- Two frames arrive, with something malformed and another type of payload between them. -/
def overheard : List QueueEvent :=
  let packet := Packet.ofSamples 0xffff 0 7 [1, -2]
  [.take, .arrives { packet with marker := true }.serialize, .arrives [0x80], .receive,
    .arrives { packet with payloadType := 0 }.serialize, .arrives (Packet.ofSamples 0 2 7 [300]).serialize, .receive]

/-- The frames of a track are received as they were sent, and what came between them might as well not have come. -/
theorem hears_what_is_sent_amid_junk :
    (listening.events hear overheard).1.map Pcm.ofLittleEndian = [[1, -2], [300]] ∧
      listening.events hear (overheard.filter fun e => !e.isJunk) = listening.events hear overheard := by
  have hopen : listening.Open := ⟨rfl, rfl⟩
  have hshort : ∀ e ∈ overheard, e.isShort = true := by decide
  have hshort' : ∀ e ∈ overheard.filter fun e => !e.isJunk, e.isShort = true := by decide
  obtain ⟨-, hjunk, hframes⟩ := hears_what_is_sent listening hopen overheard hshort
  have hsent := hframes [] [.write 0 [1, -2], .write 0 [300], .disconnect, .write 0 []] "voice" ⟨7, 0xffff, 0, true⟩ 0
    _ rfl (by decide) (by decide) rfl (by decide) (by decide) (by decide)
  have hwaiting : (listening.events hear overheard).2.session.audio.waiting = [] := by decide
  rw [hwaiting, List.append_nil] at hsent
  exact ⟨hsent, hjunk _ hshort' (by simp [List.filter_filter])⟩

end Joined

end Playout.Rtp
