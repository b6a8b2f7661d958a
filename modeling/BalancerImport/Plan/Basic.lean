import BalancerImport.Plan.Batch
import BalancerImport.Record.Importable

/-!
# Plans

A plan is a flow that is ready to be submitted, with the resource that it will lock and the items
that its actions work on. There is one plan for each balancer.

* `Limits`: how large batches may be, and how often their tasks are tried;
* `Plan`; `resolvedBalancer`: the balancer of a record that was validated;
* `groupBy`: groups in the order of first appearance; `collect`: the parts of a plan from batches.
-/

namespace BalancerImport

/-- The limits of an import. -/
structure Limits where
  /-- Listeners for each task. -/
  listeners : Nat
  /-- Backends for each task. -/
  backends : Nat
  retry : RetryPolicy
  deriving DecidableEq, Repr

/-- The limits of an import that sets none. -/
def Limits.standard : Limits := { listeners := 20, backends := 100, retry := .standard }

/-- A flow to be submitted. -/
structure Plan where
  flowName : String
  /-- The id of the balancer on the platform. -/
  lbId : String
  key : ResourceKey
  purpose : LockPurpose
  subKind : Option ResourceKind
  subIds : List String
  tasks : List Task
  /-- The action that works on each item. -/
  itemActions : List (Uuid × String)
  deriving Repr

/-- The id on the platform of the balancer of a record. -/
def resolvedBalancer {R : Type} [Importable R] (r : R) : Except PlanError String :=
  match Importable.lbId r with
  | some id => .ok id
  | none => .error (.unresolvedBalancer (Importable.balancer r))

/-- Adds an item to the group of its key; a new group comes last. -/
def addToGroup {α : Type} (key : String) (a : α) : List (String × List α) → List (String × List α)
  | [] => [(key, [a])]
  | (k, group) :: rest =>
    if k = key then (k, group ++ [a]) :: rest else (k, group) :: addToGroup key a rest

/-- The groups of keyed items, in the order in which their keys first appear. -/
def groupByKey {α : Type} (items : List (String × α)) : List (String × List α) :=
  items.foldl (fun groups item => addToGroup item.1 item.2 groups) []

/-- All results, up to the first error. -/
def mapUntilError {α β ε : Type} (f : α → Except ε β) : List α → Except ε (List β)
  | [] => .ok []
  | a :: as =>
    match f a with
    | .error e => .error e
    | .ok b => (mapUntilError f as).map (b :: ·)

/-- The action of each item of some batches. -/
def itemActionsOf {R : Type} (batches : List (Task × List (Uuid × R))) : List (Uuid × String) :=
  batches.flatMap fun (task, batch) => batch.map fun item => (item.1, task.id)

/-- The ids of the items of a batch, as parameters carry them. -/
def itemIds {R : Type} (batch : List (Uuid × R)) : Json := .strs (batch.map fun item => item.1.text)

/-- What compiles validated records, each with its item, to plans. -/
abbrev Compiler (R : Type) := Context → Limits → List (Uuid × R) → Except PlanError (List Plan)

end BalancerImport
