import Playout.Decimal.Positional
import Playout.Error
import Playout.Pcm.Gain
import Playout.Url.Basic

/-!
# Requests to play a source

A request names a source, how loud to play it and the track to play it on. It is checked before anything is
done: the volume first, then the address of the source.
-/

namespace Playout

structure Request where
  sourceUrl : String
  volume : Pcm.Gain := .unity
  trackName : String := ""
deriving DecidableEq, Repr

namespace Request

/-- The address of the source of a request that can be tried. -/
def validate (r : Request) : Except PlaybackError Url :=
  if !r.volume.isVolume then
    .error (.invalidRequest
      s!"volume must be a finite number >= 0, got {Decimal.singleText r.volume.bits}")
  else
    match Url.parse r.sourceUrl with
    | .error e => .error (.invalidRequest s!"bad source URL '{r.sourceUrl}': {e.message}")
    | .ok (.resource url) =>
      if url.scheme = "http" ∨ url.scheme = "https" then .ok url
      else .error (.invalidRequest s!"unsupported URL scheme '{url.scheme}'")
    | .ok (.other scheme) => .error (.invalidRequest s!"unsupported URL scheme '{scheme}'")

end Request

end Playout
