import BalancerImport.Error

/-!
# Batches

Items are cut into batches of bounded size, and each batch becomes a task that waits for the task
before it.

* `ActionIds`: consecutive ids, each with the one before it; `ActionIds.next`;
* `cut`: batches of items; `chainBatches`: their tasks.
-/

namespace BalancerImport

/-! ## Action ids -/

/-- A source of consecutive action ids. -/
structure ActionIds where
  first : Nat
  next : Nat
  deriving DecidableEq, Repr

namespace ActionIds

/-- Ids from a number on. -/
def startingAt (first : Nat) : ActionIds := { first := first, next := first }

/-- Ids from one on. -/
def standard : ActionIds := startingAt 1

/-- The next id, and the one before it if there is one. -/
def draw (g : ActionIds) : (String × Option String) × ActionIds :=
  ((toString g.next, if g.first < g.next then some (toString (g.next - 1)) else none),
   { g with next := g.next + 1 })

end ActionIds

/-! ## Batches -/

variable {α : Type}

/-- Batches of `size + 1` items, and one of what is left. -/
def cut (size : Nat) : List α → List (List α)
  | [] => []
  | x :: xs => (x :: xs.take size) :: cut size (xs.drop size)
termination_by xs => xs.length
decreasing_by simp only [List.length_drop, List.length_cons]; omega

/-- The tasks of batches in order, up to the first without parameters. -/
def chainFrom (action : String) (retry : RetryPolicy) (params : List α → Except PlanError Json) :
    ActionIds → List (List α) → Except PlanError (List (Task × List α)) × ActionIds
  | ids, [] => (.ok [], ids)
  | ids, batch :: batches =>
    let ((id, previous), ids) := ids.draw
    match params batch with
    | .error e => (.error e, ids)
    | .ok json =>
      let (rest, ids) := chainFrom action retry params ids batches
      let task : Task :=
        { id := id, action := action, params := json, retry := retry, dependsOn := previous }
      (rest.map ((task, batch) :: ·), ids)

/-- Cuts items into batches of at most `limit` and makes a task of each, with its batch. -/
def chainBatches (action : String) (limit : Nat) (retry : RetryPolicy)
    (params : List α → Except PlanError Json) (items : List α) (ids : ActionIds) :
    Except PlanError (List (Task × List α)) × ActionIds :=
  if limit = 0 then (.error .zeroLimit, ids)
  else chainFrom action retry params ids (cut (limit - 1) items)

end BalancerImport
