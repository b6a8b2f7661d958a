import BalancerImport.Cloud.Kind

/-!
# Cloud resources

The resources of the cloud that an import looks at, each with the attributes that its rules use.

* `LoadBalancer`, `Listener`, `UrlRule`, `Target`, `Instance`;
* `Scope`: whose resources are meant; `Context`: the operator of an import;
* `LoadBalancer.matchesVip`: whether a text is a domain or an address of a balancer.
-/

namespace BalancerImport

/-- Whose resources a query is about. -/
structure Scope where
  vendor : Vendor
  account : String
  business : Int
  deriving DecidableEq, Repr

/-- The operator of an import: whose resources, and in which regions. -/
structure Context where
  vendor : Vendor
  business : Int
  account : String
  regions : List String
  deriving DecidableEq, Repr

/-- The scope of an operator. -/
def Context.scope (ctx : Context) : Scope :=
  { vendor := ctx.vendor, account := ctx.account, business := ctx.business }

/-- Whether an operator may import into a region. -/
def Context.allows (ctx : Context) (region : String) : Bool := ctx.regions.contains region

/-- A load balancer, with the id of the platform and that of the cloud. -/
structure LoadBalancer where
  id : String
  cloudId : String
  vendor : Vendor
  account : String
  business : Int
  region : String
  domain : String
  privateV4 : List String
  privateV6 : List String
  publicV4 : List String
  publicV6 : List String
  deriving DecidableEq, Repr

/-- All addresses of a balancer. -/
def LoadBalancer.addresses (lb : LoadBalancer) : List String :=
  lb.privateV4 ++ lb.privateV6 ++ lb.publicV4 ++ lb.publicV6

/-- Whether a text is the domain or an address of a balancer. The empty text is neither. -/
def LoadBalancer.matchesVip (lb : LoadBalancer) (vip : String) : Bool :=
  !vip.isEmpty && ((!lb.domain.isEmpty && lb.domain == vip) || lb.addresses.contains vip)

/-- Whether a balancer belongs to a scope. -/
def LoadBalancer.inScope (lb : LoadBalancer) (scope : Scope) : Bool :=
  lb.vendor == scope.vendor && lb.account == scope.account && lb.business == scope.business

/-- The certificates of a listener. -/
structure Certificate where
  sslMode : Option String
  ca : Option String
  certificates : List String
  deriving DecidableEq, Repr

/-- A listener of a balancer. -/
structure Listener where
  id : String
  cloudId : String
  balancer : String
  protocol : Protocol
  port : Nat
  endPort : Option Nat
  sni : Bool
  certificate : Option Certificate
  deriving DecidableEq, Repr

/-- A rule of a layer-7 listener: a domain and a path. -/
structure UrlRule where
  id : String
  cloudId : String
  balancer : String
  listener : String
  domain : String
  url : String
  targetGroup : Option String
  deriving DecidableEq, Repr

/-- A backend that is bound to a target group. -/
structure Target where
  targetGroup : String
  ip : String
  port : Nat
  weight : Nat
  kind : BackendKind
  deriving DecidableEq, Repr

/-- A compute instance. -/
structure Instance where
  id : String
  cloudId : String
  name : String
  privateV4 : List String
  publicV4 : List String
  vpcs : List String
  zone : String
  deriving DecidableEq, Repr

end BalancerImport
