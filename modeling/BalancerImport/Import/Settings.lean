import BalancerImport.Plan.Basic

/-!
# Settings

The limits of an import as the environment sets them, variable by variable. What is not set, or set
to a blank text, keeps its standard value.

* `SettingFault`: why settings are refused, and its wording;
* `Variables`, `Variables.ofEntries`: the variables of an environment;
* `Limits.check`: the limits under which an import works;
* `Limits.ofVariables`: the limits that an environment sets.
-/

namespace BalancerImport

/-- Why settings are refused. -/
inductive SettingFault where
  /-- A variable that is not a number of the expected range. -/
  | notNumeric (name value : String)
  /-- A limit that leaves no room for items. -/
  | zeroLimit
  /-- A retry policy that allows no attempt or has no waiting time. -/
  | badRetry (retry : RetryPolicy)
  deriving DecidableEq, Repr

/-- A policy as it is shown in messages. -/
def RetryPolicy.shown (p : RetryPolicy) : String :=
  s!"RetryPolicy \x7b max_attempts: {p.maxAttempts}, min_backoff_ms: {p.minBackoff}, " ++
    s!"max_backoff_ms: {p.maxBackoff} \x7d"

namespace SettingFault

/-- What is wrong. -/
def detail : SettingFault → String
  | notNumeric name value => s!"{name}: valor no numérico '{value}'"
  | zeroLimit => "los límites de lote deben ser mayores que cero"
  | badRetry retry => "política de reintentos inválida: " ++ retry.shown

/-- The wording of a fault. -/
def message (fault : SettingFault) : String := s!"Error de configuración: {fault.detail}"

end SettingFault

/-- Where variables are looked up. -/
abbrev Variables := String → Option String

/-- The value that an entry `NAME=VALUE` has for a name: what follows the name and an equals sign at
its front. A name that holds an equals sign itself may reach into the value of an entry. -/
def entryValue? (name : String) (entry : String × String) : Option String :=
  let front := (name ++ "=").toList
  let text := (entry.1 ++ "=" ++ entry.2).toList
  if !name.isEmpty && front.isPrefixOf text then some (String.ofList (text.drop front.length))
  else none

/-- The variables of an environment, of which the first entry for a name counts. -/
def Variables.ofEntries (entries : List (String × String)) : Variables :=
  fun name => entries.findSome? (entryValue? name)

/-- The number that a variable is set to, or the number that stands if it is not set. -/
def Variables.number (vars : Variables) (limit : Nat) (name : String) (standing : Nat) :
    Except SettingFault Nat :=
  match vars name with
  | none => .ok standing
  | some value =>
    if (Text.trim value).isEmpty then .ok standing
    else
      match Text.unsigned? limit (Text.trim value) with
      | some n => .ok n
      | none => .error (.notNumeric name value)

namespace Limits

/-- Whether an import works under some limits. -/
def check (limits : Limits) : Except SettingFault Unit :=
  if limits.listeners = 0 ∨ limits.backends = 0 then .error .zeroLimit
  else if !limits.retry.isValid then .error (.badRetry limits.retry)
  else .ok ()

/-- The limits that variables set. -/
def readVariables (vars : Variables) : Except SettingFault Limits := do
  let listeners ← vars.number Text.maxWord64 "IMPORT_LISTENER_BATCH_LIMIT" standard.listeners
  let backends ← vars.number Text.maxWord64 "IMPORT_BIND_RS_BATCH_LIMIT" standard.backends
  let maxAttempts ←
    vars.number Text.maxWord32 "IMPORT_RETRY_MAX_ATTEMPTS" standard.retry.maxAttempts
  let minBackoff ←
    vars.number Text.maxWord64 "IMPORT_RETRY_MIN_BACKOFF_MS" standard.retry.minBackoff
  let maxBackoff ←
    vars.number Text.maxWord64 "IMPORT_RETRY_MAX_BACKOFF_MS" standard.retry.maxBackoff
  return { listeners, backends, retry := { maxAttempts, minBackoff, maxBackoff } }

/-- The limits that variables set, if an import works under them. -/
def ofVariables (vars : Variables) : Except SettingFault Limits :=
  match readVariables vars with
  | .error fault => .error fault
  | .ok limits => limits.check.map fun _ => limits

/-! ## JSON form -/

/-- Reads limits. -/
def decode? (j : Json) : Option Limits := do
  let m ← Json.fields? ["listener_batch_limit", "bind_rs_batch_limit", "retry"] 3 j
  let listeners ← Json.field? m "listener_batch_limit" (Json.nat? Text.maxWord64)
  let backends ← Json.field? m "bind_rs_batch_limit" (Json.nat? Text.maxWord64)
  let retry ← Json.field? m "retry" RetryPolicy.decode?
  return { listeners, backends, retry }

/-- Writes limits. -/
def encode (limits : Limits) : Json :=
  .obj [("bind_rs_batch_limit", .nat limits.backends),
    ("listener_batch_limit", .nat limits.listeners), ("retry", limits.retry.encode)]

end Limits

end BalancerImport
