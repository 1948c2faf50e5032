/-!
# Stream parameters
-/

namespace Playout

/-- What a decoder knows about a stream before its first samples. -/
structure StreamSpec where
  sampleRate : UInt32
  channels : UInt16
deriving DecidableEq, Repr

/-- The rate of every delivered frame, in samples a second. -/
def canonicalRate : UInt32 := 16000

end Playout
