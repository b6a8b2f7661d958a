import BalancerImport.Cloud.State
import BalancerImport.Json.Decode
import BalancerImport.Json.Shape

/-!
# Snapshots as documents

The JSON form of the resources of a cloud, in both directions, and of the operator's context.

* `decode?` and `encode` of every resource;
* `Snapshot.decode?`: a snapshot from a value;
* `Snapshot.shape`, `Snapshot.ofDocument`: a snapshot from a text, which may hold more than that.
-/

namespace BalancerImport

open Json

/-- A number of 32 bits. -/
def Json.word32? : Json → Option Nat := nat? Text.maxWord32

/-- A vendor by its word. -/
def Vendor.decode? : Json → Option Vendor := named? Named.table

/-- A protocol by its word. -/
def Protocol.decode? : Json → Option Protocol := named? Named.table

/-- A backend kind by its word. -/
def BackendKind.decode? : Json → Option BackendKind := named? Named.table

/-- A member of a vocabulary as its word. -/
def Named.encode {α : Type} [Named α] (a : α) : Json := .str (Named.name a)

/-! ## Resources -/

/-- The keys of a balancer. -/
def LoadBalancer.keys : List String :=
  ["id", "cloud_id", "vendor", "account_id", "bk_biz_id", "region", "domain",
    "private_ipv4_addresses", "private_ipv6_addresses", "public_ipv4_addresses",
    "public_ipv6_addresses"]

/-- The keys of certificates. -/
def Certificate.keys : List String :=
  ["ssl_mode", "ca_cloud_id", "cert_cloud_ids"]

/-- The keys of a listener. -/
def Listener.keys : List String :=
  ["id", "cloud_id", "cloud_lb_id", "protocol", "port", "end_port", "sni_switch", "certificate"]

/-- The keys of a rule. -/
def UrlRule.keys : List String :=
  ["id", "cloud_id", "cloud_lb_id", "listener_cloud_id", "domain", "url", "target_group_id"]

/-- The keys of a backend. -/
def Target.keys : List String :=
  ["target_group_id", "ip", "port", "weight", "inst_type"]

/-- The keys of an instance. -/
def Instance.keys : List String :=
  ["id", "cloud_id", "name", "private_ipv4_addresses", "public_ipv4_addresses", "cloud_vpc_ids",
    "zone"]

/-- Reads a balancer. -/
def LoadBalancer.decode? (j : Json) : Option LoadBalancer := do
  let m ← fields? keys 6 j
  let id ← field? m "id" str?
  let cloudId ← field? m "cloud_id" str?
  let vendor ← field? m "vendor" Vendor.decode?
  let account ← field? m "account_id" str?
  let business ← field? m "bk_biz_id" int64?
  let region ← field? m "region" str?
  let domain ← fieldOr? m "domain" "" str?
  let privateV4 ← fieldOr? m "private_ipv4_addresses" [] strs?
  let privateV6 ← fieldOr? m "private_ipv6_addresses" [] strs?
  let publicV4 ← fieldOr? m "public_ipv4_addresses" [] strs?
  let publicV6 ← fieldOr? m "public_ipv6_addresses" [] strs?
  return { id, cloudId, vendor, account, business, region, domain, privateV4, privateV6, publicV4,
           publicV6 }

/-- Writes a balancer. -/
def LoadBalancer.encode (lb : LoadBalancer) : Json :=
  .obj [("account_id", .str lb.account), ("bk_biz_id", .int lb.business),
    ("cloud_id", .str lb.cloudId), ("domain", .str lb.domain), ("id", .str lb.id),
    ("private_ipv4_addresses", .strs lb.privateV4), ("private_ipv6_addresses", .strs lb.privateV6),
    ("public_ipv4_addresses", .strs lb.publicV4), ("public_ipv6_addresses", .strs lb.publicV6),
    ("region", .str lb.region), ("vendor", Named.encode lb.vendor)]

/-- Reads certificates. The two optional texts may be missing from an object. -/
def Certificate.decode? (j : Json) : Option Certificate := do
  let m ← fields? keys 2 j
  let sslMode ← fieldOr? m "ssl_mode" none (optional? str?)
  let ca ← fieldOr? m "ca_cloud_id" none (optional? str?)
  let certificates ← fieldOr? m "cert_cloud_ids" [] strs?
  return { sslMode, ca, certificates }

/-- Writes certificates. -/
def Certificate.encode (c : Certificate) : Json :=
  .obj [("ca_cloud_id", .optStr c.ca), ("cert_cloud_ids", .strs c.certificates),
    ("ssl_mode", .optStr c.sslMode)]

/-- Reads a listener. -/
def Listener.decode? (j : Json) : Option Listener := do
  let m ← fields? keys 5 j
  let id ← field? m "id" str?
  let cloudId ← field? m "cloud_id" str?
  let balancer ← field? m "cloud_lb_id" str?
  let protocol ← field? m "protocol" Protocol.decode?
  let port ← field? m "port" word32?
  let endPort ← fieldOr? m "end_port" none (optional? word32?)
  let sni ← fieldOr? m "sni_switch" false bool?
  let certificate ← fieldOr? m "certificate" none (optional? Certificate.decode?)
  return { id, cloudId, balancer, protocol, port, endPort, sni, certificate }

/-- Writes a listener. -/
def Listener.encode (l : Listener) : Json :=
  .obj [("certificate", (l.certificate.map Certificate.encode).getD .null),
    ("cloud_id", .str l.cloudId), ("cloud_lb_id", .str l.balancer),
    ("end_port", (l.endPort.map Json.nat).getD .null), ("id", .str l.id), ("port", .nat l.port),
    ("protocol", Named.encode l.protocol), ("sni_switch", .bool l.sni)]

/-- Reads a rule. -/
def UrlRule.decode? (j : Json) : Option UrlRule := do
  let m ← fields? keys 6 j
  let id ← field? m "id" str?
  let cloudId ← field? m "cloud_id" str?
  let balancer ← field? m "cloud_lb_id" str?
  let listener ← field? m "listener_cloud_id" str?
  let domain ← field? m "domain" str?
  let url ← field? m "url" str?
  let targetGroup ← fieldOr? m "target_group_id" none (optional? str?)
  return { id, cloudId, balancer, listener, domain, url, targetGroup }

/-- Writes a rule. -/
def UrlRule.encode (r : UrlRule) : Json :=
  .obj [("cloud_id", .str r.cloudId), ("cloud_lb_id", .str r.balancer), ("domain", .str r.domain),
    ("id", .str r.id), ("listener_cloud_id", .str r.listener),
    ("target_group_id", .optStr r.targetGroup), ("url", .str r.url)]

/-- Reads a backend. -/
def Target.decode? (j : Json) : Option Target := do
  let m ← fields? keys 5 j
  let targetGroup ← field? m "target_group_id" str?
  let ip ← field? m "ip" str?
  let port ← field? m "port" word32?
  let weight ← field? m "weight" word32?
  let kind ← field? m "inst_type" BackendKind.decode?
  return { targetGroup, ip, port, weight, kind }

/-- Writes a backend. -/
def Target.encode (t : Target) : Json :=
  .obj [("inst_type", Named.encode t.kind), ("ip", .str t.ip), ("port", .nat t.port),
    ("target_group_id", .str t.targetGroup), ("weight", .nat t.weight)]

/-- Reads an instance. -/
def Instance.decode? (j : Json) : Option Instance := do
  let m ← fields? keys 3 j
  let id ← field? m "id" str?
  let cloudId ← field? m "cloud_id" str?
  let name ← field? m "name" str?
  let privateV4 ← fieldOr? m "private_ipv4_addresses" [] strs?
  let publicV4 ← fieldOr? m "public_ipv4_addresses" [] strs?
  let vpcs ← fieldOr? m "cloud_vpc_ids" [] strs?
  let zone ← fieldOr? m "zone" "" str?
  return { id, cloudId, name, privateV4, publicV4, vpcs, zone }

/-- Writes an instance. -/
def Instance.encode (i : Instance) : Json :=
  .obj [("cloud_id", .str i.cloudId), ("cloud_vpc_ids", .strs i.vpcs), ("id", .str i.id),
    ("name", .str i.name), ("private_ipv4_addresses", .strs i.privateV4),
    ("public_ipv4_addresses", .strs i.publicV4), ("zone", .str i.zone)]

/-! ## Snapshots and contexts -/

/-- The form of a listener. -/
def Listener.shape : Shape :=
  .record (keys.map fun key =>
    (key, if key = "certificate" then .ofKeys Certificate.keys else .whole))

/-- The lists of a snapshot, and the form of each. -/
def Snapshot.lists : List (String × Shape) :=
  [("load_balancers", .list (.ofKeys LoadBalancer.keys)), ("listeners", .list Listener.shape),
    ("url_rules", .list (.ofKeys UrlRule.keys)), ("targets", .list (.ofKeys Target.keys)),
    ("instances", .list (.ofKeys Instance.keys))]

/-- Reads a snapshot. Every list may be missing. -/
def Snapshot.decode? (j : Json) : Option Snapshot := do
  let m ← fields? (lists.map Prod.fst) 0 j
  let balancers ← fieldOr? m "load_balancers" [] (listOf? LoadBalancer.decode?)
  let listeners ← fieldOr? m "listeners" [] (listOf? Listener.decode?)
  let rules ← fieldOr? m "url_rules" [] (listOf? UrlRule.decode?)
  let targets ← fieldOr? m "targets" [] (listOf? Target.decode?)
  let instances ← fieldOr? m "instances" [] (listOf? Instance.decode?)
  return { balancers, listeners, rules, targets, instances }

/-- The form of a snapshot. -/
def Snapshot.shape : Shape := .record lists

/-- Reads a snapshot from the text of a document. -/
def Snapshot.ofDocument (document : String) : Except CloudError Snapshot :=
  match (Json.parseAs? shape document).bind Snapshot.decode? with
  | some snapshot => .ok snapshot
  | none => .error .snapshot

/-- Reads the operator of an import. -/
def Context.decode? (j : Json) : Option Context := do
  let m ← fields? ["vendor", "bk_biz_id", "account_id", "region_ids"] 4 j
  let vendor ← field? m "vendor" Vendor.decode?
  let business ← field? m "bk_biz_id" int64?
  let account ← field? m "account_id" str?
  let regions ← field? m "region_ids" strs?
  return { vendor, business, account, regions }

end BalancerImport
