import BalancerImport.Record.Importable
import BalancerImport.Text.Quoted

/-!
# Backend records

Records that ask for a backend to be bound to a rule of a layer-7 listener.

* `BackendRecord` and its instance of `Importable`;
* `BackendRecord.firstPort?`, `BackendRecord.firstBackendPort?`: the two ports.
-/

namespace BalancerImport

/-- A backend to be bound to the target group of a rule. -/
structure BackendRecord where
  vip : String
  balancer : String
  protocol : String
  ports : List Nat
  domain : String
  path : String
  kind : String
  ip : String
  backendPorts : List Nat
  weight : Option Int
  remark : String
  backendRemark : String
  state : RecordState
  lbId : Option String
  targetGroup : Option String
  inst : Option Instance
  deriving DecidableEq, Repr

namespace BackendRecord

/-- The record of a row of blank cells. -/
def blank : BackendRecord :=
  { vip := "", balancer := "", protocol := "", ports := [], domain := "", path := "", kind := "",
    ip := "", backendPorts := [], weight := none, remark := "", backendRemark := "",
    state := .initial, lbId := none, targetGroup := none, inst := none }

/-- The protocol of the listener that is meant. -/
def protocol? (r : BackendRecord) : Option Protocol := Protocol.ofText? r.protocol

/-- The kind of the backend. -/
def kind? (r : BackendRecord) : Option BackendKind := BackendKind.ofText? r.kind

/-- The port of the listener. -/
def firstPort? (r : BackendRecord) : Option Nat := r.ports.head?

/-- The port of the backend. -/
def firstBackendPort? (r : BackendRecord) : Option Nat := r.backendPorts.head?

/-- The columns of a sheet of backends. -/
def columns : List (Column BackendRecord) :=
  [ .text "clb_vip_domain" fun v r => { r with vip := v },
    .text "cloud_clb_id" fun v r => { r with balancer := v },
    .text "protocol" fun v r => { r with protocol := Text.upper v },
    .ports "listener_port" fun v r => { r with ports := v },
    .text "domain" fun v r => { r with domain := v },
    .text "url_path" fun v r => { r with path := v },
    .text "inst_type" fun v r => { r with kind := Text.upper v },
    .text "rs_ip" fun v r => { r with ip := v },
    .ports "rs_port" fun v r => { r with backendPorts := v },
    { name := "weight"
      read := fun cell r => (Cell.parseWeight cell).map fun v => { r with weight := v } },
    .text "user_remark" fun v r => { r with remark := v },
    .text "rs_remark" fun v r => { r with backendRemark := v } ]

/-- The words of a record in canonical form. -/
def canonical (r : BackendRecord) : BackendRecord :=
  { r with protocol := Named.raised r.protocol, kind := Named.raised r.kind }

/-- Two records may not bind the same backend to the same rule. -/
def dedupKey (r : BackendRecord) : String :=
  s!"{r.balancer}-{Text.bracketedNumbers r.ports}-{r.domain}-{r.path}-{r.ip}-" ++
    Text.bracketedNumbers r.backendPorts

/-- What the weight of a backend gets wrong. -/
def weightViolations : Option Int → List String
  | none => ["weight: obligatorio"]
  | some w => if 0 ≤ w ∧ w ≤ 100 then [] else [s!"weight: {w} fuera del rango 0-100"]

/-- What a record by itself gets wrong. -/
def violations (r : BackendRecord) : List String :=
  (if r.balancer.isEmpty then ["cloud_clb_id: obligatorio"] else []) ++
  (if (r.protocol?.map Protocol.isLayer7).getD false then []
   else [s!"protocol: '{r.protocol}' no es un protocolo de capa 7"]) ++
  portViolations "listener_port" r.ports false ++
  (if r.domain.isEmpty then ["domain: obligatorio"] else []) ++
  (if r.path.isEmpty then ["url_path: obligatorio"] else []) ++
  (if r.kind?.isNone then [s!"inst_type: valor no soportado '{r.kind}'"] else []) ++
  (if r.ip.isEmpty then ["rs_ip: obligatorio"] else []) ++
  portViolations "rs_port" r.backendPorts false ++
  weightViolations r.weight

/-- The JSON form of a record. What validation resolves is left out. -/
def encode (r : BackendRecord) : Json :=
  .obj ([("clb_vip_domain", .str r.vip), ("cloud_clb_id", .str r.balancer),
    ("protocol", .str r.protocol), ("listener_port", .arr (r.ports.map Json.nat)),
    ("domain", .str r.domain), ("url_path", .str r.path), ("inst_type", .str r.kind),
    ("rs_ip", .str r.ip), ("rs_port", .arr (r.backendPorts.map Json.nat)),
    ("weight", (r.weight.map Json.int).getD .null), ("user_remark", .str r.remark),
    ("rs_remark", .str r.backendRemark)] ++ r.state.encodeMembers)

/-- The record of a JSON form. -/
def decode? (j : Json) : Option BackendRecord := do
  let m ← Json.objectFields? (["clb_vip_domain", "cloud_clb_id", "protocol", "listener_port",
    "domain", "url_path", "inst_type", "rs_ip", "rs_port", "weight", "user_remark", "rs_remark"] ++
    RecordState.memberNames) j
  let vip ← Json.field? m "clb_vip_domain" Json.str?
  let balancer ← Json.field? m "cloud_clb_id" Json.str?
  let protocol ← Json.field? m "protocol" Json.str?
  let ports ← Json.field? m "listener_port" (Json.listOf? Json.word32?)
  let domain ← Json.field? m "domain" Json.str?
  let path ← Json.field? m "url_path" Json.str?
  let kind ← Json.field? m "inst_type" Json.str?
  let ip ← Json.field? m "rs_ip" Json.str?
  let backendPorts ← Json.field? m "rs_port" (Json.listOf? Json.word32?)
  let weight ← Json.fieldOr? m "weight" none (Json.optional? Json.int64?)
  let remark ← Json.fieldOr? m "user_remark" "" Json.str?
  let backendRemark ← Json.fieldOr? m "rs_remark" "" Json.str?
  let state ← RecordState.decodeFrom? m
  return { vip, balancer, protocol, ports, domain, path, kind, ip, backendPorts, weight, remark,
           backendRemark, state, lbId := none, targetGroup := none, inst := none }

instance : Importable BackendRecord where
  operation := .bindBackend
  columns := columns
  blank := blank
  state := state
  withState s r := { r with state := s }
  balancer := balancer
  vip := vip
  lbId := lbId
  withLbId id r := { r with lbId := some id }
  canonical := canonical
  dedupKey := dedupKey
  violations := violations
  encode := encode
  decode? := decode?

end BackendRecord

end BalancerImport
