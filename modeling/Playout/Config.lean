import Playout.Pcm.StreamSpec

/-!
# Settings
-/

namespace Playout

/-- Settings shared by all sessions of a service. -/
structure Config where
  /-- Length of a delivered frame in milliseconds. -/
  frameMillis : Nat := 10
  /-- Most bytes that one decoding step takes from a source. -/
  readChunkBytes : Nat := 4096
  /-- Room audio payloads held for a slow consumer. -/
  roomAudioCapacity : Nat := 200
  /-- Longest wait for a connection to an origin, in milliseconds. -/
  connectMillis : Nat := 5000
  /-- Hold each frame until its time has come. -/
  realtimePacing : Bool := true
deriving DecidableEq, Repr

/-- Samples in a delivered frame, never none. -/
def Config.frameSamples (c : Config) : Nat :=
  max (canonicalRate.toNat * c.frameMillis / 1000) 1

end Playout
