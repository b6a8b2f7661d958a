import BalancerImport.Record.Listener
import BalancerImport.Check.Balancers
import BalancerImport.Check.Lookup

/-!
# Rules for listeners

What the vendor asks of a listener to be created: nothing but UDP listens on its port yet. A
listener of the same kind with the same certificates is the one that was asked for.

* `ListenerRules.compare`: a record and one listener that is there;
* `ListenerRules.compareAll`: a record and all of them; `ListenerRules.check`: with the question.
-/

namespace BalancerImport.ListenerRules

/-- Whether two lists hold the same texts. -/
def sameTexts (xs ys : List String) : Bool :=
  xs.all (fun x => ys.contains x) && ys.all (fun y => xs.contains y)

/-- Whether two texts are equal but for the case of ASCII letters. -/
def sameIgnoringCase (s t : String) : Bool :=
  s.toList.map Char.toLower == t.toList.map Char.toLower

/-- What tells a record from an HTTPS listener with certificates. -/
def certificateDifferences (r : ListenerRecord) (l : Listener) (c : Certificate) : List String :=
  let mode := c.sslMode.getD ""
  (if sameIgnoringCase mode r.sslMode then []
   else [s!"ssl_mode distinto al del listener {l.cloudId}: {mode}"]) ++
  (if c.ca.getD "" == r.ca then [] else [s!"ca_cloud_id distinto al del listener {l.cloudId}"]) ++
  (if sameTexts c.certificates r.certificates then []
   else [s!"los certificados no coinciden con los del listener {l.cloudId}"])

/-- Compares a record with a listener on its port. -/
def compare (r : ListenerRecord) (l : Listener) : Except CheckError ListenerRecord :=
  if l.protocol = .udp then .ok r
  else
    let state := r.state.markExisting
    let state :=
      if l.sni then
        state.reject s!"el listener {l.cloudId} del puerto {l.port} tiene SNI activado"
      else state
    if r.protocol? ≠ some l.protocol then
      .ok { r with
            state := state.reject
              s!"el puerto {l.port} ya tiene un listener {Named.name l.protocol} ({l.cloudId})" }
    else if l.protocol ≠ .https then .ok { r with state := state }
    else
      match l.certificate with
      | none => .error (.missingCertificate l.cloudId)
      | some c => .ok { r with state := state.rejectAll (certificateDifferences r l c) }

/-- Compares a record with the listeners on its port, one after the other. -/
def compareAll (r : ListenerRecord) : List Listener → Except CheckError ListenerRecord
  | [] => .ok r
  | l :: ls =>
    match compare r l with
    | .error e => .error e
    | .ok r => compareAll r ls

/-- Checks a record. -/
def check {m : Type → Type} [Monad m] [MonadExcept CheckError m] (q : Lookups m)
    (r : ListenerRecord) : m ListenerRecord :=
  match r.firstPort? with
  | none => pure r
  | some port => do
    let existing ← q.listeners r.balancer port
    match compareAll r existing with
    | .ok r => pure r
    | .error e => throw e

end BalancerImport.ListenerRules
