/-!
# Reach

Everything outside the process is reached over a network, and a process may have none: then requests are
refused before they are sent, datagrams do not leave, and nothing arrives.
-/

namespace Playout

/-- Whether the process has a network. -/
inductive Link where
  | up
  | down
deriving DecidableEq, Repr

end Playout
