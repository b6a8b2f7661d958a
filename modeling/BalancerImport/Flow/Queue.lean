import BalancerImport.Uuid

/-!
# The work queue

Flows wait for a worker in the order in which they were queued.
-/

namespace BalancerImport

/-- The flows that wait for a worker, the next one first. -/
structure WorkQueue where
  waiting : List Uuid
  deriving DecidableEq, Repr

namespace WorkQueue

/-- An empty queue. -/
def empty : WorkQueue := { waiting := [] }

/-- Queues a flow. -/
def enqueue (flow : Uuid) (q : WorkQueue) : WorkQueue := { waiting := q.waiting ++ [flow] }

/-- Takes the next flow. -/
def claim (q : WorkQueue) : Option Uuid × WorkQueue :=
  match q.waiting with
  | [] => (none, q)
  | flow :: rest => (some flow, { waiting := rest })

/-- How many flows wait. -/
def size (q : WorkQueue) : Nat := q.waiting.length

/-- Whether no flow waits. -/
def isEmpty (q : WorkQueue) : Bool := q.waiting.isEmpty

end WorkQueue

end BalancerImport
