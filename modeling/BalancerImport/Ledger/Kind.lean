import BalancerImport.Cloud.Kind
import BalancerImport.Uuid

/-!
# The words of the ledger

The closed vocabularies that the ledger and the locks store as words, and what can go wrong in a
store.

* `StoreError`: the causes, their category and their wording;
* `Stored`: a vocabulary that is stored by its words; `Stored.parse` reads one;
* `Source`, `Operation`, `JobState`, `ItemState`, `ResourceKind`, `LockPurpose`.
-/

namespace BalancerImport

/-! ## Errors -/

/-- Why a store refuses a request or cannot read what it holds. -/
inductive StoreError where
  /-- A word that names no member of a vocabulary. -/
  | unknownWord (vocabulary word : String)
  /-- A stored vendor that is not known. -/
  | unknownVendor (cause : CloudError)
  /-- A stored identifier that is not one. -/
  | malformedId (stored : String)
  /-- A stored document that is not JSON of the expected form. -/
  | malformedJson
  /-- A request that the store was told to refuse. -/
  | refused (request : String)
  /-- A job that does not exist. -/
  | unknownJob (job : Uuid)
  /-- An item that does not exist. -/
  | unknownItem (item : Uuid)
  /-- Some item of a batch does not exist. -/
  | unknownItemInBatch
  /-- A lock that could not be taken, although nobody was seen to hold it. -/
  | notAcquired (resource : String)
  deriving DecidableEq, Repr

/-- The four kinds of store errors. -/
inductive StoreError.Category where
  | validation
  | storage
  | notFound
  | serialization
  deriving DecidableEq, Repr

namespace StoreError

/-- The kind of an error. -/
def category : StoreError → Category
  | unknownWord _ _ => .validation
  | unknownVendor _ => .validation
  | malformedId _ => .storage
  | malformedJson => .serialization
  | refused _ => .storage
  | unknownJob _ => .notFound
  | unknownItem _ => .notFound
  | unknownItemInBatch => .notFound
  | notAcquired _ => .storage

/-- The wording of a cause. -/
def detail : StoreError → String
  | unknownWord vocabulary word => s!"{vocabulary} desconocido: {word}"
  | unknownVendor cause => cause.message
  | malformedId stored => s!"uuid inválido '{stored}'"
  | malformedJson => "JSON mal formado"
  | refused request => s!"{request} falló"
  | unknownJob job => s!"job {job}"
  | unknownItem item => s!"task item {item}"
  | unknownItemInBatch => "task item inexistente"
  | notAcquired resource => s!"no se pudo adquirir el bloqueo {resource}"

/-- The wording of an error. -/
def message (e : StoreError) : String :=
  match e.category with
  | .validation => s!"Error de validación: {e.detail}"
  | .storage => s!"Error de almacenamiento: {e.detail}"
  | .notFound => s!"No encontrado: {e.detail}"
  | .serialization => s!"Error de serialización: {e.detail}"

end StoreError

/-! ## Vocabularies -/

/-- A vocabulary that is stored by its words. -/
class Stored (α : Type) extends Named α where
  /-- What the vocabulary is called in messages. -/
  vocabulary : String

/-- The member of a vocabulary that a text names, whatever its case and the white space around. -/
def Stored.parse {α : Type} [Stored α] (s : String) : Except StoreError α :=
  match Named.find? (Named.lowered s) with
  | some a => .ok a
  | none => .error (.unknownWord (Stored.vocabulary α) (Named.lowered s))

/-- Where the rows of an import come from. -/
inductive Source where
  | excel
  | sops
  deriving DecidableEq, Repr, Inhabited

instance : Stored Source where
  vocabulary := "TaskSource"
  members := [.excel, .sops]
  name
    | .excel => "excel"
    | .sops => "sops"

/-- What an import does with its records. -/
inductive Operation where
  | createListener
  | bindBackend
  deriving DecidableEq, Repr, Inhabited

instance : Stored Operation where
  vocabulary := "TaskOperation"
  members := [.createListener, .bindBackend]
  name
    | .createListener => "create_layer7_listener"
    | .bindBackend => "layer7_listener_bind_rs"

/-- The state of a job. -/
inductive JobState where
  | running
  | success
  | failed
  | cancel
  deriving DecidableEq, Repr, Inhabited

instance : Stored JobState where
  vocabulary := "JobState"
  members := [.running, .success, .failed, .cancel]
  name
    | .running => "running"
    | .success => "success"
    | .failed => "failed"
    | .cancel => "cancel"

/-- The state of an item. -/
inductive ItemState where
  | init
  | running
  | success
  | failed
  | cancel
  deriving DecidableEq, Repr, Inhabited

instance : Stored ItemState where
  vocabulary := "TaskItemState"
  members := [.init, .running, .success, .failed, .cancel]
  name
    | .init => "init"
    | .running => "running"
    | .success => "success"
    | .failed => "failed"
    | .cancel => "cancel"

/-- The kinds of resources that a flow works on. -/
inductive ResourceKind where
  | loadBalancer
  | targetGroup
  deriving DecidableEq, Repr, Inhabited

instance : Stored ResourceKind where
  vocabulary := "ResType"
  members := [.loadBalancer, .targetGroup]
  name
    | .loadBalancer => "load_balancer"
    | .targetGroup => "target_group"

/-- What a lock is held for. -/
inductive LockPurpose where
  | createListener
  | addBackend
  deriving DecidableEq, Repr, Inhabited

instance : Stored LockPurpose where
  vocabulary := "LockTaskType"
  members := [.createListener, .addBackend]
  name
    | .createListener => "create_listener"
    | .addBackend => "add_rs"

end BalancerImport
