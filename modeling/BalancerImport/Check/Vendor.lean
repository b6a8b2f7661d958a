import BalancerImport.Check.ListenerRules
import BalancerImport.Check.BackendRules
import BalancerImport.Check.Duplicates

/-!
# Checking a batch

The whole validation of a batch: rules of the records by themselves, duplicates, the common live
check, and the rules of the vendor on the records that survive it.

* `checkSurvivors`: the vendor's rules, with caches that live for one batch;
* `validateRecords`: the validation of a batch, and how many listener queries it made.
-/

namespace BalancerImport

variable {R : Type}

/-- Checks the surviving records in order; the others stay as they are. -/
def checkSurvivors {m : Type → Type} [Monad m] (check : R → m R) : List (Screened R) → m (List R)
  | [] => pure []
  | s :: rest => do
    let r ← if s.survives then check s.record else pure s.record
    let rs ← checkSurvivors check rest
    pure (r :: rs)

/-- The rules of a vendor for one kind of record, in any setting in which questions are answered. -/
structure VendorRules (R : Type) where
  check : {m : Type → Type} → [Monad m] → [MonadExcept CheckError m] → Lookups m → R → m R

/-- The rules for listeners. -/
def listenerRules : VendorRules ListenerRecord := { check := ListenerRules.check }

/-- The rules for backends. -/
def backendRules : VendorRules BackendRecord := { check := fun q r => BackendRules.check q r }

/-- The vendor's rules on a screened batch, asking once for each key; and the number of listener
queries. -/
def VendorRules.checkAll (rules : VendorRules R) (cloud : Cloud) (screened : List (Screened R)) :
    Except CheckError (List R) × Nat :=
  let (result, caches) :=
    (checkSurvivors (rules.check (Lookups.cached cloud)) screened).run Caches.empty
  (result, caches.listeners.queries)

/-- The validation of a batch, and the number of listener queries that it made. -/
def validateRecords [Importable R] (rules : VendorRules R) (ctx : Context) (cloud : Cloud)
    (rs : List R) : Except CheckError (List R) × Nat :=
  let rs := rs.map fun r => Importable.checkAlone (Importable.refreshed r)
  match checkBalancers ctx cloud (markDuplicates rs) with
  | .error e => (.error e, 0)
  | .ok screened =>
    let (result, queries) := rules.checkAll cloud screened
    (result.map fun rs => rs.map (Importable.mapState RecordState.finish), queries)

end BalancerImport
