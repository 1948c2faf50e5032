import Mathlib
import Playout.Session.Lease

/-!
# The queue for the lease

The holder of the lease and those that wait for it make one queue, in the order in which they asked. Asking
joins it at its end, leaving takes away one place, and the lease is with whoever is first (`Lease.Fair`), also
when the first did not look yet.
-/

namespace Playout.Lease

variable {l : Lease} {i j : Nat}

/-- The holder and those that wait, in order. -/
def queue (l : Lease) : List Nat := l.holder.toList ++ l.waiting

/-- The lease is with the first of the queue. -/
def Fair (l : Lease) : Prop := l.holder = l.queue.head?

theorem Fair.new : Fair {} := rfl

theorem Fair.waiting_eq_nil (h : l.Fair) (hfree : l.holder = none) : l.waiting = [] := by
  simpa [Fair, queue, hfree, eq_comm] using h

theorem queue_request (h : l.Fair) (i : Nat) : (l.request i).queue = l.queue ++ [i] := by
  cases hholder : l.holder with
  | none => simp [request, queue, hholder, h.waiting_eq_nil hholder]
  | some k => simp [request, queue, hholder]

theorem fair_request (l : Lease) (i : Nat) : (l.request i).Fair := by
  cases hholder : l.holder with
  | none => simp [Lease.request, Fair, queue, hholder]
  | some k => simp [Lease.request, Fair, queue, hholder]

theorem holder_request_of_holder (hj : l.holder = some j) (i : Nat) : (l.request i).holder = some j := by
  simp [Lease.request, hj]

theorem queue_leave (l : Lease) (i : Nat) : (l.leave i).queue = l.queue.erase i := by
  cases hholder : l.holder with
  | none => simp [leave, queue, hholder]
  | some k =>
    by_cases hk : k = i
    · cases hwaiting : l.waiting with
      | nil => simp [leave, queue, hholder, hwaiting, hk]
      | cons next rest => simp [leave, queue, hholder, hwaiting, hk]
    · simp [leave, queue, hholder, hk]

theorem Fair.leave (h : l.Fair) (i : Nat) : (l.leave i).Fair := by
  cases hholder : l.holder with
  | none => simp [Lease.leave, Fair, queue, hholder, h.waiting_eq_nil hholder]
  | some k =>
    by_cases hk : k = i
    · cases hwaiting : l.waiting with
      | nil => simp [Lease.leave, Fair, queue, hholder, hwaiting, hk]
      | cons next rest => simp [Lease.leave, Fair, queue, hholder, hwaiting, hk]
    · simp [Lease.leave, Fair, queue, hholder, hk]

theorem holder_leave_of_ne (hj : l.holder = some j) (hne : j ≠ i) : (l.leave i).holder = some j := by
  simp [Lease.leave, hj, hne]

theorem mem_queue_of_holder (hj : l.holder = some j) : j ∈ l.queue := by
  simp [queue, hj]

theorem queue_eq_nil : l.queue = [] ↔ l.holder = none ∧ l.waiting = [] := by
  simp [queue]

theorem holder_request_of_free (h : l.holder = none) (i : Nat) : (l.request i).holder = some i := by
  simp [Lease.request, h]

end Playout.Lease
