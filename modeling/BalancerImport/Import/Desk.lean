import BalancerImport.Import.Writing
import BalancerImport.Check.Vendor

/-!
# The desk

What all calls to the importer share: the ledger, the engine and the locks, the cloud, the limits,
and the time.

* `Desk`; `Desk.validate`: the validation of a batch against the cloud of a desk;
* `Desk.run`: a pass of the worker that releases the locks of flows that ended.
-/

namespace BalancerImport

/-- What all calls to the importer share. -/
structure Desk (L K : Type) where
  ledger : L
  dispatch : Dispatch K
  cloud : Cloud
  /-- How many listener queries were made. -/
  lookups : Nat
  limits : Limits
  now : Instant

namespace Desk

variable {L K : Type}

/-- Validates a batch, and counts the listener queries that it makes. -/
def validate {R : Type} [Importable R] (rules : VendorRules R) (ctx : Context) (rs : List R)
    (d : Desk L K) : Except ImportError (List R) × Desk L K :=
  let (answer, queries) := validateRecords rules ctx d.cloud rs
  (answer.mapError ImportError.check, { d with lookups := d.lookups + queries })

variable [LockStore K]

/-- Handlers that try actions in a way of their own, and release the locks of flows that ended. -/
def releasing {σ : Type} (perform : String → Json → σ → Except String Unit × σ) :
    Handlers (σ × K) where
  perform action params s :=
    let (answer, own) := perform action params s.1
    (answer, own, s.2)
  announce w _ s :=
    let (answer, locks) := Lock.releaseWatched w s.2
    (answer, s.1, locks)

/-- A pass of the worker. -/
def run {σ : Type} (perform : String → Json → σ → Except String Unit × σ) (s : σ) (d : Desk L K) :
    Except FlowError Summary × σ × Desk L K :=
  let (answer, engine, s, locks) :=
    Worker.runUntilIdle (releasing perform) d.dispatch.engine (s, d.dispatch.locks)
  (answer, s, { d with dispatch := { engine, locks } })

end Desk

end BalancerImport
