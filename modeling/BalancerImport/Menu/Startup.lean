import BalancerImport.Import.Service
import BalancerImport.Menu.EnvFile

/-!
# Starting the menu

What the environment asks for: the limits, a snapshot of the cloud, and where the ledger and the
locks are kept. An error ends the menu before it asks anything.

* `FatalFault`: what ends the menu, and how it is shown;
* `Setup`, `Setup.ofEnvironment`: what the menu works with;
* `Setup.desk`: a desk with stores of either kind.
-/

namespace BalancerImport

/-! ## Fatal errors -/

/-- What ends the menu. -/
inductive FatalFault where
  /-- Settings that are refused. -/
  | setting (fault : SettingFault)
  /-- What was asked of the cloud. -/
  | cloud (cause : CloudError)
  /-- A business that is no number. -/
  | business (fault : Text.NumeralFault)
  deriving DecidableEq, Repr

/-- The name of a fault of a numeral. -/
def Text.NumeralFault.shown : Text.NumeralFault → String
  | .empty => "Empty"
  | .invalidDigit => "InvalidDigit"
  | .tooLarge => "PosOverflow"
  | .tooSmall => "NegOverflow"

/-- An error of the cloud as it is shown when it ends the menu. -/
def CloudError.shown : CloudError → String
  | .remote reason => s!"Remote({Text.quoted reason})"
  | .unknownValue vocabulary word =>
    s!"UnknownValue \x7b kind: {Text.quoted vocabulary}, value: {Text.quoted word} \x7d"
  | .snapshot => "Snapshot"

/-- What is shown of a fatal error. -/
def FatalFault.shown : FatalFault → String
  | setting fault => s!"Config({Text.quoted fault.detail})"
  | cloud cause => cause.shown
  | business fault => s!"ParseIntError \x7b kind: {fault.shown} \x7d"

/-! ## Setups -/

/-- The contents of the files that can be read, by path. -/
abbrev Files := String → Option String

/-- Where the ledger and the locks are kept. -/
inductive StoreChoice where
  | memory
  | tables
  deriving DecidableEq, Repr

/-- The variables on which the menu depends. -/
def menuVariables : List String :=
  ["IMPORT_LISTENER_BATCH_LIMIT", "IMPORT_BIND_RS_BATCH_LIMIT", "IMPORT_RETRY_MAX_ATTEMPTS",
    "IMPORT_RETRY_MIN_BACKOFF_MS", "IMPORT_RETRY_MAX_BACKOFF_MS", "IMPORT_CLOUD_SNAPSHOT",
    "IMPORT_DB_URL", "DATABASE_URL"]

/-- What the menu works with. -/
structure Setup where
  limits : Limits
  cloud : Cloud
  stores : StoreChoice

namespace Setup

/-- The snapshot at a path. -/
def readSnapshot (files : Files) (path : String) : Except CloudError Snapshot :=
  match files path with
  | none => .error .snapshot
  | some document => Snapshot.ofDocument document

/-- The path of the snapshot, if variables name one. -/
def snapshotPath? (vars : Variables) : Option String :=
  match vars "IMPORT_CLOUD_SNAPSHOT" with
  | none => none
  | some path => if (Text.trim path).isEmpty then none else some (Text.trim path)

/-- The cloud that variables name. -/
def readCloud (files : Files) (vars : Variables) : Except CloudError Cloud :=
  match snapshotPath? vars with
  | none => .ok (.ofSnapshot .empty)
  | some path => (readSnapshot files path).map Cloud.ofSnapshot

/-- Stores are tables if variables name a database of the kind that is supported. -/
def chooseStores (vars : Variables) : StoreChoice :=
  match (vars "IMPORT_DB_URL").or (vars "DATABASE_URL") with
  | none => .memory
  | some url => if "postgres".toList.isPrefixOf url.toList then .memory else .tables

/-- The setup that variables ask for. -/
def ofVariables (files : Files) (vars : Variables) : Except FatalFault Setup := do
  let limits ← (Limits.ofVariables vars).mapError FatalFault.setting
  let cloud ← (readCloud files vars).mapError FatalFault.cloud
  return { limits, cloud, stores := chooseStores vars }

/-- The variables of an environment, to which a file named `.env` may add some. -/
def variablesOf (files : Files) (vars : Variables) : Variables :=
  match files ".env" with
  | none => vars
  | some content => EnvFile.load content vars

/-- The setup of an environment. -/
def ofEnvironment (files : Files) (vars : Variables) : Except FatalFault Setup :=
  ofVariables files (variablesOf files vars)

/-- A desk with stores, where nothing was submitted yet. -/
def desk {L K : Type} (ledger : L) (locks : K) (seed : Nat) (now : Instant) (s : Setup) :
    Desk L K :=
  { ledger := ledger, dispatch := { engine := .empty seed, locks := locks }, cloud := s.cloud,
    lookups := 0, limits := s.limits, now := now }

end Setup

end BalancerImport
