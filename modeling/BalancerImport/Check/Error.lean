import BalancerImport.Cloud.Kind

/-!
# Errors of the live check

What makes a whole batch fail while it is checked against the cloud. What is wrong with a single
record is no error: it is noted in the record.
-/

namespace BalancerImport

/-- Why a batch cannot be checked against the cloud. -/
inductive CheckError where
  /-- A query failed. -/
  | query (cause : CloudError)
  /-- A balancer that does not exist in the operator's scope. -/
  | unknownBalancer (cloudId : String)
  /-- An HTTPS listener of the cloud without certificate. -/
  | missingCertificate (listener : String)
  deriving DecidableEq, Repr

/-- The wording of an error. -/
def CheckError.message : CheckError → String
  | query cause => s!"Error remoto: {cause.message}"
  | unknownBalancer cloudId => s!"Recurso no encontrado: balanceador {cloudId}"
  | missingCertificate listener =>
    s!"Estado remoto inconsistente: el listener HTTPS {listener} no tiene certificado"

end BalancerImport
