/-!
# The log of a process

A process has at most one subscriber to its log. The first one that is installed stays, and every later one is
refused.
-/

namespace Playout.Log

def refusal : String :=
  "failed to install tracing subscriber: a global default trace dispatcher has already been set"

/-- Installs a subscriber where there may be one: whether there is one then. -/
def install (present : Bool) : Except String Bool :=
  if present then .error refusal else .ok true

end Playout.Log
