import Playout.Metrics.Basic
import Playout.Pcm.Sample

/-!
# Audio of the room

Audio that arrives from the room waits in a bounded queue for its one consumer. The room side never waits:
what does not fit is dropped and counted. The receiving end is handed out once; when it is gone, with or
without having been handed out, nothing is queued any more.
-/

namespace Playout

/-- Where the receiving end of the queue is. -/
inductive Receiver where
  /-- Not handed out yet. -/
  | held
  /-- With the consumer. -/
  | taken
  /-- Dropped. -/
  | gone
deriving DecidableEq, Repr

/-- What became of an offered payload. -/
inductive Offered where
  | queued
  /-- Dropped because the queue was full. -/
  | full
  /-- Empty, or nobody can receive it. -/
  | refused
deriving DecidableEq, Repr

/-- The queue and its counts. -/
structure RoomAudio where
  capacity : Nat
  waiting : List Bytes := []
  receiver : Receiver := .held
  received : Nat := 0
  dropped : Nat := 0
deriving DecidableEq, Repr

namespace RoomAudio

def new (capacity : Nat) : RoomAudio := { capacity := max capacity 1 }

/-- A payload of whole samples: one of odd length loses its first byte. -/
def wholeSamples (payload : Bytes) : Bytes :=
  if payload.length % 2 = 1 then payload.drop 1 else payload

def offer (q : RoomAudio) (payload : Bytes) : Offered × RoomAudio :=
  let payload := wholeSamples payload
  if payload = [] ∨ q.receiver = .gone then (.refused, q)
  else if q.waiting.length < q.capacity then
    (.queued, { q with waiting := q.waiting ++ [payload], received := q.received + 1 })
  else (.full, { q with dropped := q.dropped + 1 })

/-- Hands out the receiving end, the first time. -/
def take (q : RoomAudio) : Bool × RoomAudio :=
  if q.receiver = .held then (true, { q with receiver := .taken }) else (false, q)

/-- The consumer receives the next payload, if one waits. -/
def receive (q : RoomAudio) : Option Bytes × RoomAudio :=
  match q.receiver, q.waiting with
  | .taken, payload :: rest => (some payload, { q with waiting := rest })
  | _, _ => (none, q)

/-- The receiving end is dropped, and what waits with it. -/
def dropReceiver (q : RoomAudio) : RoomAudio := { q with receiver := .gone, waiting := [] }

/-- Nothing more is handed out: a receiving end that was not is dropped. -/
def withdraw (q : RoomAudio) : RoomAudio := if q.receiver = .held then q.dropReceiver else q

end RoomAudio

def Metrics.countOffer {τ : Type} (m : Metrics τ) : Offered → Metrics τ
  | .queued => { m with received := m.received + 1 }
  | .full => { m with dropped := m.dropped + 1 }
  | .refused => m

end Playout
