import BalancerImport.Record.Importable
import BalancerImport.Cloud.State
import BalancerImport.Check.Error

/-!
# Checking balancers

The part of the live check that every record goes through: its balancer exists in the operator's
scope, lies in an allowed region, and is the one that the record names.

* `Screened`: a record, and whether the rules of the vendor apply to it;
* `screen`: one record; `checkBalancers`: a batch, with one query for all balancers.
-/

namespace BalancerImport

/-- A record after the common check. It survives if the rules of the vendor apply to it. -/
structure Screened (R : Type) where
  record : R
  survives : Bool
  deriving DecidableEq, Repr

variable {R : Type} [Importable R]

/-- The balancers of the records that are not ruled out, each once, in the order of the records. -/
def wantedBalancers (rs : List R) : List String :=
  ((rs.filter fun r => !Importable.isRejected r).map Importable.balancer).eraseDups

/-- Checks a record against its balancer. A record that names it wrongly survives all the same, so
that the vendor's messages are added. -/
def screenWith (ctx : Context) (lb : LoadBalancer) (r : R) : Screened R :=
  let r := Importable.withLbId lb.id r
  if !ctx.allows lb.region then
    { record :=
        Importable.reject s!"la región {lb.region} del balanceador no está autorizada" r
      survives := false }
  else if !lb.matchesVip (Importable.vip r) then
    { record :=
        Importable.reject
          (s!"'{Importable.vip r}' no es un dominio ni una VIP del balanceador " ++ lb.cloudId) r
      survives := true }
  else { record := r, survives := true }

/-- Checks a record against the balancers that were found. -/
def screen (ctx : Context) (found : List LoadBalancer) (r : R) : Except CheckError (Screened R) :=
  if Importable.isRejected r then .ok { record := r, survives := false }
  else
    match balancerOf? found (Importable.balancer r) with
    | none => .error (.unknownBalancer (Importable.balancer r))
    | some lb => .ok (screenWith ctx lb r)

/-- Checks records up to the first whose balancer was not found. -/
def screenAll (ctx : Context) (found : List LoadBalancer) :
    List R → Except CheckError (List (Screened R))
  | [] => .ok []
  | r :: rs =>
    match screen ctx found r with
    | .error e => .error e
    | .ok s => (screenAll ctx found rs).map (s :: ·)

/-- The common check of a batch. The cloud is only asked if some record is not ruled out. -/
def checkBalancers (ctx : Context) (cloud : Cloud) (rs : List R) :
    Except CheckError (List (Screened R)) :=
  if (wantedBalancers rs).isEmpty then
    .ok (rs.map fun r => { record := r, survives := false })
  else
    match cloud.balancers ctx.scope (wantedBalancers rs) with
    | .error e => .error (.query e)
    | .ok found => screenAll ctx found rs

end BalancerImport
