/-!
# Names of tracks

A request names a track by text or by a small number. The first numbers have names of their own, and a
request that names no track means the speaker.
-/

namespace Playout.Track

/-- The track of a request that names none. -/
def defaultName : String := "speaker"

def nameOfNumber : Int → String
  | 0 => defaultName
  | 1 => "app_audio"
  | 2 => "tts"
  | n => s!"track_{n}"

/-- Puts the default in the place of an empty name. -/
def normalize (name : String) : String := if name.isEmpty then defaultName else name

end Playout.Track
