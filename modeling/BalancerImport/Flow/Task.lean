import BalancerImport.Ledger.Entry
import BalancerImport.Json.Decode
import BalancerImport.Cloud.Json

/-!
# Tasks and flows

A flow is a list of tasks for remote batches; a watch is a flow that waits for another one to end.

* `RetryPolicy`, `Task`, `TaskRecord`; `FlowState`, `TaskState`; `Watch`, `Flow`;
* the JSON forms of all of them.
-/

namespace BalancerImport

/-! ## Tasks -/

/-- How often a task is tried, and how long the engine waits in between. -/
structure RetryPolicy where
  maxAttempts : Nat
  minBackoff : Nat
  maxBackoff : Nat
  deriving DecidableEq, Repr

/-- A policy allows one attempt at least, and its waiting time is an interval. -/
def RetryPolicy.isValid (p : RetryPolicy) : Bool :=
  1 ≤ p.maxAttempts && p.minBackoff ≤ p.maxBackoff

/-- The policy of an import that sets none. -/
def RetryPolicy.standard : RetryPolicy := { maxAttempts := 3, minBackoff := 100, maxBackoff := 200 }

/-- A remote call for one batch. A task may wait for one earlier task. -/
structure Task where
  id : String
  action : String
  params : Json
  retry : RetryPolicy
  dependsOn : Option String
  deriving Repr

/-- The state of a task. -/
inductive TaskState where
  | pending
  | success
  | failed
  | canceled
  deriving DecidableEq, Repr, Inhabited

instance : Named TaskState where
  members := [.pending, .success, .failed, .canceled]
  name
    | .pending => "pending"
    | .success => "success"
    | .failed => "failed"
    | .canceled => "canceled"

/-- A task with its progress. -/
structure TaskRecord where
  task : Task
  state : TaskState
  attempts : Nat
  reason : Option String
  deriving Repr

/-- A task that was not tried yet. -/
def Task.start (t : Task) : TaskRecord :=
  { task := t, state := .pending, attempts := 0, reason := none }

/-! ## Flows -/

/-- The state of a flow. A dormant flow waits to be started. -/
inductive FlowState where
  | dormant
  | pending
  | running
  | success
  | failed
  | canceled
  deriving DecidableEq, Repr, Inhabited

instance : Named FlowState where
  members := [.dormant, .pending, .running, .success, .failed, .canceled]
  name
    | .dormant => "init"
    | .pending => "pending"
    | .running => "running"
    | .success => "success"
    | .failed => "failed"
    | .canceled => "canceled"

/-- Whether a flow is over. -/
def FlowState.isTerminal : FlowState → Bool
  | .success => true
  | .failed => true
  | .canceled => true
  | _ => false

/-- What a watch waits for, and the resource that is free afterwards. -/
structure Watch where
  flow : Uuid
  resourceId : String
  resourceKind : String
  subIds : List String
  subKind : Option String
  purpose : String
  deriving DecidableEq, Repr

/-- A flow. Watches have what they wait for. -/
structure Flow where
  id : Uuid
  name : String
  state : FlowState
  shared : List (String × String)
  tasks : List TaskRecord
  watch : Option Watch
  reason : Option String
  deriving Repr

/-! ## JSON forms -/

/-- Reads a policy. -/
def RetryPolicy.decode? (j : Json) : Option RetryPolicy := do
  let m ← Json.fields? ["max_attempts", "min_backoff_ms", "max_backoff_ms"] 3 j
  let maxAttempts ← Json.field? m "max_attempts" Json.word32?
  let minBackoff ← Json.field? m "min_backoff_ms" (Json.nat? Text.maxWord64)
  let maxBackoff ← Json.field? m "max_backoff_ms" (Json.nat? Text.maxWord64)
  return { maxAttempts, minBackoff, maxBackoff }

/-- Writes a policy. -/
def RetryPolicy.encode (p : RetryPolicy) : Json :=
  .obj [("max_attempts", .nat p.maxAttempts), ("max_backoff_ms", .nat p.maxBackoff),
    ("min_backoff_ms", .nat p.minBackoff)]

/-- Reads a task. A task of an object may leave out what it depends on. -/
def Task.decode? (j : Json) : Option Task := do
  let m ← Json.fields? ["action_id", "action_name", "params", "retry", "depend_on"] 5 j
  let id ← Json.field? m "action_id" Json.str?
  let action ← Json.field? m "action_name" Json.str?
  let params ← Json.field? m "params" some
  let retry ← Json.field? m "retry" RetryPolicy.decode?
  let dependsOn ← Json.fieldOr? m "depend_on" none (Json.optional? Json.str?)
  return { id, action, params, retry, dependsOn }

/-- Writes a task. -/
def Task.encode (t : Task) : Json :=
  .obj [("action_id", .str t.id), ("action_name", .str t.action),
    ("depend_on", .optStr t.dependsOn), ("params", t.params), ("retry", t.retry.encode)]

/-- Writes a watch. -/
def Watch.encode (w : Watch) : Json :=
  .obj [("flow_id", .str w.flow.text), ("res_id", .str w.resourceId),
    ("res_type", .str w.resourceKind), ("sub_res_ids", .strs w.subIds),
    ("sub_res_type", .optStr w.subKind), ("task_type", .str w.purpose)]

/-- Writes a task with its progress. -/
def TaskRecord.encode (t : TaskRecord) : Json :=
  .obj [("attempts", .nat t.attempts), ("reason", .optStr t.reason),
    ("state", Named.encode t.state), ("task", t.task.encode)]

/-- Writes a flow. -/
def Flow.encode (f : Flow) : Json :=
  .obj [("id", .str f.id.text), ("name", .str f.name), ("reason", .optStr f.reason),
    ("share_data", .obj (f.shared.map fun (key, value) => (key, .str value))),
    ("state", Named.encode f.state), ("tasks", .arr (f.tasks.map TaskRecord.encode)),
    ("watch", (f.watch.map Watch.encode).getD .null)]

end BalancerImport
