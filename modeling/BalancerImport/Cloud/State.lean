import BalancerImport.Cloud.Resource

/-!
# The state of the cloud

What the cloud holds, and the queries that an import asks. While the cloud is out of reach every
query fails with the same reason.

* `Snapshot`: the resources; `Cloud`: the resources and whether they can be reached;
* `Cloud.balancers`, `Cloud.listenersAt`, `Cloud.urlRule?`, `Cloud.targetsOf`, `Cloud.instanceAt?`.
-/

namespace BalancerImport

/-- The resources of a cloud. -/
structure Snapshot where
  balancers : List LoadBalancer
  listeners : List Listener
  rules : List UrlRule
  targets : List Target
  instances : List Instance
  deriving DecidableEq, Repr

/-- A cloud without resources. -/
def Snapshot.empty : Snapshot :=
  { balancers := [], listeners := [], rules := [], targets := [], instances := [] }

/-- A cloud, with the reason for which it cannot be reached, if there is one. -/
structure Cloud where
  snapshot : Snapshot
  outage : Option String
  deriving DecidableEq, Repr

namespace Cloud

/-- A cloud that can be reached. -/
def ofSnapshot (snapshot : Snapshot) : Cloud := { snapshot := snapshot, outage := none }

/-- An answer, unless the cloud cannot be reached. -/
def answer {α : Type} (cloud : Cloud) (a : α) : Except CloudError α :=
  match cloud.outage with
  | some reason => .error (.remote reason)
  | none => .ok a

/-- The balancers of a scope with one of the given cloud ids. -/
def balancers (cloud : Cloud) (scope : Scope) (cloudIds : List String) :
    Except CloudError (List LoadBalancer) :=
  cloud.answer (cloud.snapshot.balancers.filter fun lb =>
    lb.inScope scope && cloudIds.contains lb.cloudId)

/-- The listeners of a balancer on a port. -/
def listenersAt (cloud : Cloud) (balancer : String) (port : Nat) :
    Except CloudError (List Listener) :=
  cloud.answer (cloud.snapshot.listeners.filter fun l => l.balancer == balancer && l.port == port)

/-- The first rule of a listener for a domain and a path. -/
def urlRule? (cloud : Cloud) (balancer listener domain url : String) :
    Except CloudError (Option UrlRule) :=
  cloud.answer (cloud.snapshot.rules.find? fun r =>
    r.balancer == balancer && r.listener == listener && r.domain == domain && r.url == url)

/-- The backends that are bound to a target group. -/
def targetsOf (cloud : Cloud) (targetGroup : String) : Except CloudError (List Target) :=
  cloud.answer (cloud.snapshot.targets.filter fun t => t.targetGroup == targetGroup)

/-- The first instance with a private address. -/
def instanceAt? (cloud : Cloud) (ip : String) : Except CloudError (Option Instance) :=
  cloud.answer (cloud.snapshot.instances.find? fun i => i.privateV4.contains ip)

end Cloud

/-- The balancer that a cloud id stands for among balancers: of several the last. -/
def balancerOf? (balancers : List LoadBalancer) (cloudId : String) : Option LoadBalancer :=
  balancers.reverse.find? fun lb => lb.cloudId == cloudId

end BalancerImport
