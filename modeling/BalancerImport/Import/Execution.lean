import BalancerImport.Import.Desk
import BalancerImport.Plan.Listeners
import BalancerImport.Plan.Backends
import BalancerImport.Ledger.Json

/-!
# Executing a batch

A batch is validated once more; the records that can be executed are written to the ledger, compiled
to plans and submitted. If nothing could be submitted, what was written is deleted again.

* `Capability`: what a vendor offers for one kind of record;
* `Report`: what an execution did;
* `Desk.submit`, `Desk.compensate`, `Desk.execute`.
-/

namespace BalancerImport

/-- What a vendor offers for one kind of record: rules, and a way to compile records to plans. -/
structure Capability (R : Type) where
  rules : VendorRules R
  compile : Compiler R

/-- Creating listeners. -/
def listenerCapability : Capability ListenerRecord :=
  { rules := listenerRules, compile := ListenerPlan.compile }

/-- Binding backends. -/
def backendCapability : Capability BackendRecord :=
  { rules := backendRules, compile := BackendPlan.compile }

/-- What an execution did. -/
structure Report where
  job : Uuid
  flows : List Uuid
  watches : List Uuid
  /-- How many records were written to the ledger. -/
  executed : Nat
  /-- How many records were left out. -/
  skipped : Nat
  deriving DecidableEq, Repr

/-- The report on a batch of `total` records. -/
def Report.of (w : Written) (flows : List Submitted) (total : Nat) : Report :=
  { job := w.job, flows := flows.map Submitted.flow, watches := flows.map Submitted.watch,
    executed := w.items.length, skipped := total - w.items.length }

/-- Writes a report. -/
def Report.encode (r : Report) : Json :=
  .obj [("executed", .nat r.executed), ("flow_ids", Uuid.encodeAll r.flows),
    ("job_id", .str r.job.text), ("skipped", .nat r.skipped),
    ("watch_flow_ids", Uuid.encodeAll r.watches)]

/-- The resources of records, each once, in the order of the records. -/
def wantedResources {R : Type} [Importable R] (rs : List R) : List ResourceKey :=
  ((rs.filterMap Importable.lbId).eraseDups).map ResourceKey.balancer

namespace Desk

variable {L K R : Type} [LockStore K] [Importable R]

/-- Fails with the first resource that a flow holds. -/
def ensureAllFree (locks : K) : List ResourceKey → Except ImportError Unit
  | [] => .ok ()
  | key :: rest =>
    match Lock.ensureFree key locks with
    | .error e => .error e
    | .ok () => ensureAllFree locks rest

/-- Compiles and submits records that were written. -/
def submit (offer : Capability R) (ctx : Context) (w : Written) (rs : List R) (d : Desk L K) :
    Except ImportError (List Submitted) × Desk L K :=
  match ensureAllFree d.dispatch.locks (wantedResources rs) with
  | .error e => (.error e, d)
  | .ok () =>
    match offer.compile ctx d.limits (w.items.zip rs) with
    | .error e => (.error (.plan e), d)
    | .ok plans =>
      let (answer, dispatch) := d.dispatch.submitAll d.now plans
      (answer, { d with dispatch := dispatch })

variable [LedgerStore L]

/-- Deletes what was written, after an error. The error changes if that fails as well. -/
def compensate (w : Written) (cause : ImportError) (d : Desk L K) : ImportError × Desk L K :=
  match w.rollback d.ledger with
  | (.ok (), ledger) => (cause, { d with ledger := ledger })
  | (.error e, ledger) => (.rollbackFailed w.job cause e, { d with ledger := ledger })

/-- Submits records that were written, and notes their flows in the ledger. -/
def launch (offer : Capability R) (ctx : Context) (w : Written) (rs : List R) (d : Desk L K) :
    Except ImportError (List Submitted) × Desk L K :=
  match d.submit offer ctx w rs with
  | (.error cause, d) =>
    let (e, d) := d.compensate w cause
    (.error e, d)
  | (.ok flows, d) =>
    let (answer, ledger) := w.attach flows d.ledger
    (answer.map fun _ => flows, { d with ledger := ledger })

/-- Executes records that were validated, out of a batch of `total`. -/
def executeValidated (offer : Capability R) (ctx : Context) (source : Source) (total : Nat)
    (rs : List R) (d : Desk L K) : Except ImportError Report × Desk L K :=
  if rs.isEmpty then (.error .nothingExecutable, d)
  else
    match Written.write ctx source d.now rs d.ledger with
    | (.error e, ledger) => (.error e, { d with ledger := ledger })
    | (.ok w, ledger) =>
      let (answer, d) := launch offer ctx w rs { d with ledger := ledger }
      (answer.map fun flows => Report.of w flows total, d)

/-- Validates a batch and executes what can be executed. -/
def execute (offer : Capability R) (ctx : Context) (source : Source) (rs : List R) (d : Desk L K) :
    Except ImportError Report × Desk L K :=
  match d.validate offer.rules ctx rs with
  | (.error e, d) => (.error e, d)
  | (.ok rs, d) =>
    d.executeValidated offer ctx source rs.length (rs.filter Importable.isExecutable)

end Desk

end BalancerImport
