import BalancerImport.Cloud.State
import BalancerImport.Check.Error

/-!
# Looking things up in the cloud

The questions that the vendor's rules ask, either of the cloud each time or through caches that ask
once for each key and live as long as one check.

* `Cache`: answers by key, and how many queries were made for them;
* `Lookups`: the questions; `Lookups.direct`, `Lookups.cached`: the two ways to answer them.
-/

namespace BalancerImport

/-! ## Caches -/

/-- Answers by key. -/
structure Cache (κ ν : Type) where
  entries : List (κ × ν)
  queries : Nat
  deriving DecidableEq, Repr

namespace Cache

variable {κ ν : Type} [BEq κ]

/-- A cache without answers. -/
def empty : Cache κ ν := { entries := [], queries := 0 }

/-- The answer for a key, asked for if it is not there. A failure is not kept. -/
def fetch (query : κ → Except CloudError ν) (key : κ) (c : Cache κ ν) :
    Except CheckError ν × Cache κ ν :=
  match c.entries.lookup key with
  | some v => (.ok v, c)
  | none =>
    match query key with
    | .ok v => (.ok v, { entries := (key, v) :: c.entries, queries := c.queries + 1 })
    | .error e => (.error (.query e), { c with queries := c.queries + 1 })

end Cache

/-! ## Questions -/

/-- The questions that the rules ask, in a setting `m`. -/
structure Lookups (m : Type → Type) where
  /-- The listeners of a balancer on a port. -/
  listeners : String → Nat → m (List Listener)
  /-- The rule of a balancer's listener for a domain and a path. -/
  rule : String → String → String → String → m (Option UrlRule)
  /-- The backends of a target group. -/
  targets : String → m (List Target)
  /-- The instance with a private address. -/
  inst : String → m (Option Instance)

/-- The answer of a query, or the error of a check. -/
def asked {α : Type} (answer : Except CloudError α) : Except CheckError α :=
  answer.mapError CheckError.query

/-- Asks the cloud each time. -/
def Lookups.direct (cloud : Cloud) : Lookups (Except CheckError) where
  listeners balancer port := asked (cloud.listenersAt balancer port)
  rule balancer listener domain url := asked (cloud.urlRule? balancer listener domain url)
  targets group := asked (cloud.targetsOf group)
  inst ip := asked (cloud.instanceAt? ip)

/-- The caches of one check. -/
structure Caches where
  listeners : Cache (String × Nat) (List Listener)
  rules : Cache (String × String × String) (Option UrlRule)
  targets : Cache String (List Target)
  instances : Cache String (Option Instance)

/-- Caches without answers. -/
def Caches.empty : Caches :=
  { listeners := .empty, rules := .empty, targets := .empty, instances := .empty }

/-- A check that goes on with caches. They are kept when it fails. -/
abbrev Asking := ExceptT CheckError (StateM Caches)

/-- Asks the cloud once for each key. Rules are kept by listener, domain and path. -/
def Lookups.cached (cloud : Cloud) : Lookups Asking where
  listeners balancer port := ExceptT.mk fun (c : Caches) =>
    let (answer, listeners) :=
      c.listeners.fetch (fun key => cloud.listenersAt key.1 key.2) (balancer, port)
    (answer, { c with listeners := listeners })
  rule balancer listener domain url := ExceptT.mk fun (c : Caches) =>
    let (answer, rules) :=
      c.rules.fetch (fun key => cloud.urlRule? balancer key.1 key.2.1 key.2.2)
        (listener, domain, url)
    (answer, { c with rules := rules })
  targets group := ExceptT.mk fun (c : Caches) =>
    let (answer, targets) := c.targets.fetch cloud.targetsOf group
    (answer, { c with targets := targets })
  inst ip := ExceptT.mk fun (c : Caches) =>
    let (answer, instances) := c.instances.fetch cloud.instanceAt? ip
    (answer, { c with instances := instances })

end BalancerImport
