/-!
# The track lease

One playback at a time may write to the tracks of a session: the one that holds the lease. Those that ask
while it is held wait in a queue. When the holder leaves, the lease passes to the first of the queue at once,
whether that one looks at it yet or not. One that no longer wants the lease leaves in the same way, from the
queue or with a lease it was just given.
-/

namespace Playout

/-- The lease: the playback that holds it and those that wait, by their numbers. -/
structure Lease where
  holder : Option Nat := none
  waiting : List Nat := []
deriving DecidableEq, Repr

namespace Lease

def request (l : Lease) (id : Nat) : Lease :=
  match l.holder with
  | none => { l with holder := some id }
  | some _ => { l with waiting := l.waiting ++ [id] }

/-- Gives the lease up, or stops waiting for it. -/
def leave (l : Lease) (id : Nat) : Lease :=
  if l.holder = some id then
    match l.waiting with
    | [] => { l with holder := none }
    | next :: rest => ⟨some next, rest⟩
  else { l with waiting := l.waiting.erase id }

end Lease

end Playout
