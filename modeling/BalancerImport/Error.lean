import BalancerImport.Record.Sheet
import BalancerImport.Check.Error
import BalancerImport.Flow.Engine
import BalancerImport.Lock.Store
import BalancerImport.Text.Quoted

/-!
# Errors of an import

Everything that makes a call to the importer fail. What is wrong with single records is no error.

* `PlanError`: what goes wrong while records are compiled to flows;
* `ImportError`: all errors, with `ImportError.message` and `ImportError.isBusy`.
-/

namespace BalancerImport

/-- Why records cannot be compiled to flows. -/
inductive PlanError where
  /-- A record whose balancer was not resolved. -/
  | unresolvedBalancer (cloudId : String)
  /-- A backend whose target group was not resolved. -/
  | unresolvedGroup (ip : String) (ports : List Nat)
  /-- Batches without room for items. -/
  | zeroLimit
  /-- A batch for which there are no parameters. -/
  | noParameters (reason : String)
  deriving DecidableEq, Repr

/-- The wording of an error. -/
def PlanError.message : PlanError → String
  | unresolvedBalancer cloudId =>
    s!"Error estructural: el registro del balanceador {cloudId} no pasó por la validación"
  | unresolvedGroup ip ports =>
    s!"Error estructural: el RS {ip}:{Text.bracketedNumbers ports} no tiene target group resuelto"
  | zeroLimit => "Error de configuración: límite de lote igual a cero"
  | noParameters reason => s!"Error estructural: {reason}"

/-- Why an import fails. -/
inductive ImportError where
  /-- Rows that cannot be read. -/
  | sheet (fault : SheetFault)
  /-- Records that are not in JSON form. -/
  | malformedRecords (operation : Operation)
  /-- An operation that the vendor does not offer. -/
  | unsupported (vendor : Vendor) (operation : Operation)
  /-- The check against the cloud. -/
  | check (cause : CheckError)
  /-- The compilation of records to flows. -/
  | plan (cause : PlanError)
  /-- The ledger or the locks. -/
  | store (cause : StoreError)
  /-- A ledger that created fewer items than it was asked for. -/
  | incompleteItems (expected created : Nat)
  /-- The flow engine. -/
  | flow (cause : FlowError)
  /-- A resource on which another flow works. -/
  | busy (resource : ResourceKey) (owner : Uuid)
  /-- No record that can be executed. -/
  | nothingExecutable
  /-- A job that does not exist. -/
  | unknownJob (job : Uuid)
  /-- An error after which not even the ledger could be restored. -/
  | rollbackFailed (job : Uuid) (cause rollback : ImportError)
  deriving DecidableEq, Repr

namespace ImportError

/-- The wording of an error. -/
def message : ImportError → String
  | sheet fault => s!"Error estructural: {fault.message}"
  | malformedRecords operation =>
    s!"Error estructural: registros de {Named.name operation} mal formados"
  | unsupported vendor operation =>
    s!"Operación no soportada: {Named.name operation} para {Named.name vendor}"
  | check cause => cause.message
  | plan cause => cause.message
  | store cause => s!"Error del libro de tareas: {cause.message}"
  | incompleteItems expected created =>
    s!"Libro de tareas inconsistente: se pidieron {expected} items y se crearon {created}"
  | flow cause => s!"Error de flujo: {cause.message}"
  | busy resource owner => s!"Recurso ocupado: {resource.text} (flow {owner})"
  | nothingExecutable => "No hay registros ejecutables"
  | unknownJob job => s!"Recurso no encontrado: job {job}"
  | rollbackFailed job cause rollback =>
    s!"Fallo al compensar el job {job}: {rollback.message} (causa original: {cause.message})"

/-- Whether an import failed for another flow that works on a resource. -/
def isBusy : ImportError → Bool
  | busy _ _ => true
  | _ => false

end ImportError

end BalancerImport
