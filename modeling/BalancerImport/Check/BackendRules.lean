import BalancerImport.Record.Backend
import BalancerImport.Check.Balancers
import BalancerImport.Check.Lookup

/-!
# Rules for backends

What the vendor asks of a backend to be bound: its listener and rule exist, the rule has a target
group in which the backend is not yet bound, and a compute instance exists.

* `BackendRules.settleTarget`: a record and the backends of its target group;
* `BackendRules.check`: all questions in order, up to the first whose answer rules the record out.
-/

namespace BalancerImport.BackendRules

/-- Compares a record with the backends of its target group: one at the same address is the one that
was asked for if it has the same weight. -/
def settleTarget (targets : List Target) (r : BackendRecord) : BackendRecord :=
  match targets.find? fun t => t.ip == r.ip && some t.port == r.firstBackendPort? with
  | none => r
  | some bound =>
    if r.weight = some (bound.weight : Int) then { r with state := r.state.markExisting }
    else
      Importable.reject s!"{bound.ip}:{bound.port} ya está vinculado con peso {bound.weight}" r

/-- Notes the instance of a record. -/
def settleInstance (found : Option Instance) (r : BackendRecord) : BackendRecord :=
  match found with
  | some i => { r with inst := some i }
  | none => Importable.reject s!"no existe una CVM con la IP {r.ip}" r

/-- Checks a record. -/
def check {m : Type → Type} [Monad m] (q : Lookups m) (r : BackendRecord) : m BackendRecord :=
  match r.firstPort? with
  | none => pure r
  | some port => do
    let listeners ← q.listeners r.balancer port
    match listeners.find? fun l => l.protocol != .udp with
    | none => pure (Importable.reject s!"no existe listener en el puerto {port}" r)
    | some l =>
      if r.protocol? ≠ some l.protocol then
        pure (Importable.reject
          s!"el listener {l.cloudId} es {Named.name l.protocol}, no {r.protocol}" r)
      else do
        let rule ← q.rule r.balancer l.cloudId r.domain r.path
        match rule with
        | none =>
          pure (Importable.reject
            s!"no existe la regla {r.domain}{r.path} en el listener {l.cloudId}" r)
        | some rule =>
          match rule.targetGroup with
          | none => pure (Importable.reject s!"la regla {rule.cloudId} no tiene target group" r)
          | some group => do
            let targets ← q.targets group
            let r := settleTarget targets { r with targetGroup := some group }
            if r.kind? = some .cvm then do
              let found ← q.inst r.ip
              pure (settleInstance found r)
            else pure r

end BalancerImport.BackendRules
