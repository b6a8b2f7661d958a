import BalancerImport.Plan.Submission

/-!
# Writing an import to the ledger

Before anything is submitted, an import gets a job with one item for each record. Afterwards the
flows are noted in the job and in its items; if there are none, the job and the items are deleted.

* `Written`: the job and the items of an import;
* `Written.write`, `Written.attach`, `Written.rollback`.
-/

namespace BalancerImport

/-- The job and the items of an import; the items are in the order of the records. -/
structure Written where
  job : Uuid
  items : List Uuid
  deriving DecidableEq, Repr

/-- The job of an import of some kind of records. -/
def NewJob.ofImport (R : Type) [Importable R] (ctx : Context) (source : Source) : NewJob :=
  { business := ctx.business, source := source, vendor := ctx.vendor, account := ctx.account,
    resource := .loadBalancer, operations := [Importable.operation R] }

/-- The item of a record. -/
def NewItem.ofRecord {R : Type} [Importable R] (job : Uuid) (r : R) : NewItem :=
  { job := job, operation := Importable.operation R, param := Importable.encode r }

/-- The update for an item of a flow. -/
def Submitted.updates (s : Submitted) : List ItemUpdate :=
  s.itemActions.map fun (item, action) => { item, flow := s.flow, actions := [action] }

namespace Written

variable {L : Type} [LedgerStore L]

/-- Deletes a job and those of its items that were created, as far as the ledger lets it. -/
def discard (w : Written) (ledger : L) : L :=
  let ledger := if w.items.isEmpty then ledger else (LedgerStore.deleteItems w.items ledger).2
  (LedgerStore.deleteJob w.job ledger).2

/-- Creates the items of a job. A job that does not get them all is deleted again. -/
def writeItems {R : Type} [Importable R] (now : Instant) (job : Uuid) (rs : List R) (ledger : L) :
    Except ImportError Written × L :=
  match LedgerStore.createItems now (rs.map (NewItem.ofRecord job)) ledger with
  | (.error e, ledger) => (.error (.store e), discard { job, items := [] } ledger)
  | (.ok items, ledger) =>
    if items.length = rs.length then (.ok { job, items }, ledger)
    else (.error (.incompleteItems rs.length items.length), discard { job, items } ledger)

/-- Creates a job with one item for each record. -/
def write {R : Type} [Importable R] (ctx : Context) (source : Source) (now : Instant) (rs : List R)
    (ledger : L) : Except ImportError Written × L :=
  match LedgerStore.createJob (NewJob.ofImport R ctx source) ledger with
  | (.error e, ledger) => (.error (.store e), ledger)
  | (.ok job, ledger) => writeItems now job rs ledger

/-- Notes flows in the items they work on, and in the job. -/
def attach (w : Written) (flows : List Submitted) (ledger : L) : Except ImportError Unit × L :=
  match LedgerStore.updateItems (flows.flatMap Submitted.updates) ledger with
  | (.error e, ledger) => (.error (.store e), ledger)
  | (.ok (), ledger) =>
    let (answer, ledger) := LedgerStore.setFlows w.job (flows.map Submitted.flow) ledger
    (answer.mapError ImportError.store, ledger)

/-- Deletes the items and then the job. -/
def rollback (w : Written) (ledger : L) : Except ImportError Unit × L :=
  match LedgerStore.deleteItems w.items ledger with
  | (.error e, ledger) => (.error (.store e), ledger)
  | (.ok (), ledger) =>
    let (answer, ledger) := LedgerStore.deleteJob w.job ledger
    (answer.mapError ImportError.store, ledger)

end Written

end BalancerImport
