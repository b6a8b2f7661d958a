import BalancerImport.Json.Decode
import BalancerImport.Cloud.Json

/-!
# The state of a record

What an import has found out about a record: a status and messages. A record starts unvalidated;
once it is not executable it stays so.

* `Status`, `RecordState`;
* `reset`, `reject`, `markExisting`, `finish`: the steps between states.
-/

namespace BalancerImport

/-- The outcome of validating a record. -/
inductive Status where
  | unvalidated
  | executable
  | existing
  | notExecutable
  deriving DecidableEq, Repr, Inhabited

instance : Named Status where
  members := [.unvalidated, .executable, .existing, .notExecutable]
  name
    | .unvalidated => "unvalidated"
    | .executable => "executable"
    | .existing => "existing"
    | .notExecutable => "not_executable"

/-- Whether a status is an outcome. -/
def Status.isTerminal (s : Status) : Bool := s != .unvalidated

/-- A status by its word, or by an object that maps its word to null. -/
def Status.decode? : Json → Option Status := Json.named? Named.table

/-- The status of a record, which may also be an object that maps its word to an empty object. -/
def Status.decodeMember? : Json → Option Status
  | .obj [(word, .obj [])] => Named.find? word
  | j => decode? j

/-- A status with the messages that explain it. -/
structure RecordState where
  status : Status
  messages : List String
  deriving DecidableEq, Repr, Inhabited

namespace RecordState

/-- The state of a record about which nothing is known. -/
def initial : RecordState := { status := .unvalidated, messages := [] }

/-- Forgets everything. -/
def reset (_ : RecordState) : RecordState := initial

/-- Rules a record out, for a reason. -/
def reject (reason : String) (s : RecordState) : RecordState :=
  { status := .notExecutable, messages := s.messages ++ [reason] }

/-- Rules a record out, for several reasons. -/
def rejectAll (reasons : List String) (s : RecordState) : RecordState :=
  reasons.foldl (fun s reason => s.reject reason) s

/-- Notes that what a record asks for exists, unless it is ruled out. -/
def markExisting (s : RecordState) : RecordState :=
  if s.status = .notExecutable then s else { s with status := .existing }

/-- Ends validation: what nothing spoke against can be executed. -/
def finish (s : RecordState) : RecordState :=
  if s.status = .unvalidated then { s with status := .executable } else s

/-- Whether a record is ruled out. -/
def isRejected (s : RecordState) : Bool := s.status == .notExecutable

/-- Whether a record can be executed. -/
def isExecutable (s : RecordState) : Bool := s.status == .executable

/-- The names of the members of a state. -/
def memberNames : List String := ["status", "validate_result"]

/-- Reads a state from members. -/
def decodeWith? (status? : Json → Option Status) (members : List (String × Json)) :
    Option RecordState := do
  let status ← Json.fieldOr? members "status" .unvalidated status?
  let messages ← Json.fieldOr? members "validate_result" [] Json.strs?
  return { status, messages }

/-- Reads a state from the members of a record. -/
def decodeFrom? : List (String × Json) → Option RecordState := decodeWith? Status.decodeMember?

/-- Reads a state that is written on its own. -/
def decode? (j : Json) : Option RecordState :=
  (Json.fields? memberNames 0 j).bind (decodeWith? Status.decode?)

/-- The members of a state. -/
def encodeMembers (s : RecordState) : List (String × Json) :=
  [("status", Named.encode s.status), ("validate_result", .strs s.messages)]

end RecordState

end BalancerImport
