import BalancerImport.Record.Importable
import BalancerImport.Text.Quoted

/-!
# Listener records

Records that ask for a layer-7 listener on a balancer: a port or a range of ports, and for HTTPS the
certificates.

* `ListenerRecord` and its instance of `Importable`;
* `ListenerRecord.firstPort?`, `ListenerRecord.endPort?`: the bounds of the range.
-/

namespace BalancerImport

/-- A layer-7 listener to be created. -/
structure ListenerRecord where
  vip : String
  balancer : String
  protocol : String
  ports : List Nat
  sslMode : String
  certificates : List String
  ca : String
  remark : String
  state : RecordState
  lbId : Option String
  deriving DecidableEq, Repr

namespace ListenerRecord

/-- The record of a row of blank cells. -/
def blank : ListenerRecord :=
  { vip := "", balancer := "", protocol := "", ports := [], sslMode := "", certificates := [],
    ca := "", remark := "", state := .initial, lbId := none }

/-- The protocol that is asked for. -/
def protocol? (r : ListenerRecord) : Option Protocol := Protocol.ofText? r.protocol

/-- The first port. -/
def firstPort? (r : ListenerRecord) : Option Nat := r.ports.head?

/-- The last port of a range. -/
def endPort? (r : ListenerRecord) : Option Nat :=
  if 1 < r.ports.length then r.ports.getLast? else none

/-- The columns of a sheet of listeners. -/
def columns : List (Column ListenerRecord) :=
  [ .text "clb_vip_domain" fun v r => { r with vip := v },
    .text "cloud_clb_id" fun v r => { r with balancer := v },
    .text "protocol" fun v r => { r with protocol := Text.upper v },
    .ports "listener_port" fun v r => { r with ports := v },
    .text "ssl_mode" fun v r => { r with sslMode := Text.upper v },
    .text "cert_cloud_ids" fun v r => { r with certificates := Cell.splitIds v },
    .text "ca_cloud_id" fun v r => { r with ca := v },
    .text "user_remark" fun v r => { r with remark := v } ]

/-- The words of a record in canonical form. -/
def canonical (r : ListenerRecord) : ListenerRecord :=
  { r with protocol := Named.raised r.protocol, sslMode := Named.raised r.sslMode }

/-- Two records may not ask for the same ports with the same protocol on one balancer. -/
def dedupKey (r : ListenerRecord) : String :=
  s!"{r.balancer}-{r.protocol}-{Text.bracketedNumbers r.ports}"

/-- What the certificate fields of an HTTPS listener get wrong. -/
def certificateViolations (r : ListenerRecord) : List String :=
  (if r.sslMode == "" then ["ssl_mode: obligatorio para HTTPS"]
   else if r.sslMode == "UNIDIRECTIONAL" then []
   else if r.sslMode == "MUTUAL" then
     if r.ca.isEmpty then ["ca_cloud_id: obligatorio con ssl_mode MUTUAL"] else []
   else [s!"ssl_mode: valor no soportado '{r.sslMode}'"]) ++
  (if r.certificates.isEmpty then ["cert_cloud_ids: obligatorio para HTTPS"] else [])

/-- What a record by itself gets wrong. -/
def violations (r : ListenerRecord) : List String :=
  (if r.balancer.isEmpty then ["cloud_clb_id: obligatorio"] else []) ++
  portViolations "listener_port" r.ports true ++
  match r.protocol? with
  | some .http =>
    if !r.sslMode.isEmpty || !r.certificates.isEmpty || !r.ca.isEmpty then
      ["HTTP no admite campos de certificado"]
    else []
  | some .https => r.certificateViolations
  | _ => [s!"protocol: '{r.protocol}' no es un protocolo de capa 7"]

/-- The JSON form of a record. What validation resolves is left out. -/
def encode (r : ListenerRecord) : Json :=
  .obj ([("clb_vip_domain", .str r.vip), ("cloud_clb_id", .str r.balancer),
    ("protocol", .str r.protocol), ("listener_port", .arr (r.ports.map Json.nat)),
    ("ssl_mode", .str r.sslMode), ("cert_cloud_ids", .strs r.certificates),
    ("ca_cloud_id", .str r.ca), ("user_remark", .str r.remark)] ++ r.state.encodeMembers)

/-- The record of a JSON form. -/
def decode? (j : Json) : Option ListenerRecord := do
  let m ← Json.objectFields? (["clb_vip_domain", "cloud_clb_id", "protocol", "listener_port",
    "ssl_mode", "cert_cloud_ids", "ca_cloud_id", "user_remark"] ++ RecordState.memberNames) j
  let vip ← Json.field? m "clb_vip_domain" Json.str?
  let balancer ← Json.field? m "cloud_clb_id" Json.str?
  let protocol ← Json.field? m "protocol" Json.str?
  let ports ← Json.field? m "listener_port" (Json.listOf? Json.word32?)
  let sslMode ← Json.fieldOr? m "ssl_mode" "" Json.str?
  let certificates ← Json.fieldOr? m "cert_cloud_ids" [] Json.strs?
  let ca ← Json.fieldOr? m "ca_cloud_id" "" Json.str?
  let remark ← Json.fieldOr? m "user_remark" "" Json.str?
  let state ← RecordState.decodeFrom? m
  return { vip, balancer, protocol, ports, sslMode, certificates, ca, remark, state, lbId := none }

instance : Importable ListenerRecord where
  operation := .createListener
  columns := columns
  blank := blank
  state := state
  withState s r := { r with state := s }
  balancer := balancer
  vip := vip
  lbId := lbId
  withLbId id r := { r with lbId := some id }
  canonical := canonical
  dedupKey := dedupKey
  violations := violations
  encode := encode
  decode? := decode?

end ListenerRecord

end BalancerImport
