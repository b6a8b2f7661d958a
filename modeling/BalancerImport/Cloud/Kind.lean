import BalancerImport.Text.Named

/-!
# Vendors, protocols and backend kinds

The closed vocabularies of cloud resources, read from text without regard to case or to white space
around it.

* `Vendor`, `Protocol`, `BackendKind`;
* `CloudError`: what can go wrong while asking the cloud, and its wording.
-/

namespace BalancerImport

/-! ## Errors -/

/-- Why the cloud's state could not be read. -/
inductive CloudError where
  /-- The query failed. -/
  | remote (reason : String)
  /-- A word that names no member of a vocabulary. -/
  | unknownValue (vocabulary : String) (word : String)
  /-- A snapshot that is missing or malformed. -/
  | snapshot
  deriving DecidableEq, Repr

/-- The wording of an error. -/
def CloudError.message : CloudError → String
  | .remote reason => s!"Error remoto: {reason}"
  | .unknownValue vocabulary word => s!"Valor desconocido para {vocabulary}: {word}"
  | .snapshot => "Error de snapshot"

/-- The member of a vocabulary that a word names. -/
def Named.findIn {α : Type} [Named α] (vocabulary word : String) : Except CloudError α :=
  match Named.find? word with
  | some a => .ok a
  | none => .error (.unknownValue vocabulary word)

/-! ## Vendors -/

/-- The cloud vendors that the platform knows. -/
inductive Vendor where
  | tcloud
  | aws
  | gcp
  | azure
  | huawei
  deriving DecidableEq, Repr, Inhabited

instance : Named Vendor where
  members := [.tcloud, .aws, .gcp, .azure, .huawei]
  name
    | .tcloud => "tcloud"
    | .aws => "aws"
    | .gcp => "gcp"
    | .azure => "azure"
    | .huawei => "huawei"

/-- The vendor that a text names. -/
def Vendor.parse (s : String) : Except CloudError Vendor :=
  Named.findIn "vendor" (Named.lowered s)

/-! ## Protocols -/

/-- The protocols of a listener. -/
inductive Protocol where
  | tcp
  | udp
  | http
  | https
  deriving DecidableEq, Repr, Inhabited

instance : Named Protocol where
  members := [.tcp, .udp, .http, .https]
  name
    | .tcp => "TCP"
    | .udp => "UDP"
    | .http => "HTTP"
    | .https => "HTTPS"

/-- Whether a protocol routes by domain and path. -/
def Protocol.isLayer7 : Protocol → Bool
  | .http => true
  | .https => true
  | _ => false

/-- The protocol that a text names. -/
def Protocol.parse (s : String) : Except CloudError Protocol :=
  Named.findIn "protocol" (Named.raised s)

/-- The protocol that a text names, if any. -/
def Protocol.ofText? (s : String) : Option Protocol := (Protocol.parse s).toOption

/-! ## Backend kinds -/

/-- What stands behind a target group: a compute instance or a network interface. -/
inductive BackendKind where
  | cvm
  | eni
  deriving DecidableEq, Repr, Inhabited

instance : Named BackendKind where
  members := [.cvm, .eni]
  name
    | .cvm => "CVM"
    | .eni => "ENI"

/-- The backend kind that a text names. -/
def BackendKind.parse (s : String) : Except CloudError BackendKind :=
  Named.findIn "inst_type" (Named.raised s)

/-- The backend kind that a text names, if any. -/
def BackendKind.ofText? (s : String) : Option BackendKind := (BackendKind.parse s).toOption

end BalancerImport
