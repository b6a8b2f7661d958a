import BalancerImport.Record.State
import BalancerImport.Record.Cell
import BalancerImport.Ledger.Kind

/-!
# Records

What every kind of record has: the columns of its sheet, its state, the balancer it is about, its
canonical form, its key among duplicates, the rules it has to meet by itself, and its JSON form.

* `Column`: a column of a sheet; `Importable`: a kind of record;
* `Importable.checkAlone`: a record with the violations of its own rules noted;
* `portViolations`: the rules for lists of ports.
-/

namespace BalancerImport

/-- A column of a sheet: how a trimmed cell changes a record. -/
structure Column (R : Type) where
  name : String
  read : String → R → Except CellFault R

/-- A column whose cells are texts. -/
def Column.text {R : Type} (name : String) (set : String → R → R) : Column R :=
  { name := name, read := fun cell r => .ok (set cell r) }

/-- A column whose cells are ports or port ranges. -/
def Column.ports {R : Type} (name : String) (set : List Nat → R → R) : Column R :=
  { name := name, read := fun cell r => (Cell.parsePorts cell).map fun ports => set ports r }

/-- A kind of record. -/
class Importable (R : Type) where
  /-- What an import does with such records. -/
  operation : Operation
  /-- The columns of a sheet of such records. -/
  columns : List (Column R)
  /-- The record of a row of blank cells. -/
  blank : R
  /-- What has been found out about a record. -/
  state : R → RecordState
  /-- A record with another state. -/
  withState : RecordState → R → R
  /-- The cloud id of the balancer that a record is about. -/
  balancer : R → String
  /-- The domain or address by which a record names its balancer. -/
  vip : R → String
  /-- The id of the balancer on the platform, once it is known. -/
  lbId : R → Option String
  /-- A record whose balancer's id on the platform is known. -/
  withLbId : String → R → R
  /-- A record with its words in canonical form. -/
  canonical : R → R
  /-- What two records of a batch may not share. -/
  dedupKey : R → String
  /-- What a record by itself gets wrong. -/
  violations : R → List String
  /-- The JSON form of a record. -/
  encode : R → Json
  /-- The record of a JSON form. -/
  decode? : Json → Option R

namespace Importable

variable {R : Type} [Importable R]

/-- A record with its state changed. -/
def mapState (change : RecordState → RecordState) (r : R) : R := withState (change (state r)) r

/-- A record that is ruled out for a reason. -/
def reject (reason : String) (r : R) : R := mapState (RecordState.reject reason) r

/-- Whether a record is ruled out. -/
def isRejected (r : R) : Bool := (state r).isRejected

/-- Whether a record can be executed. -/
def isExecutable (r : R) : Bool := (state r).isExecutable

/-- A record with what it gets wrong by itself noted. -/
def checkAlone (r : R) : R := mapState (RecordState.rejectAll (violations r)) r

/-- A record as validation starts with it. -/
def refreshed (r : R) : R := canonical (mapState RecordState.reset r)

/-- Reads a JSON array of records. -/
def decodeAll? : Json → Option (List R) := Json.listOf? decode?

/-- Writes a JSON array of records. -/
def encodeAll (rs : List R) : Json := .arr (rs.map encode)

end Importable

/-! ## Ports -/

/-- The port after another. The greatest number of 32 bits is followed by `0`. -/
def nextPort (p : Nat) : Nat := (p + 1) % (Text.maxWord32 + 1)

/-- Whether each port follows the one before it. -/
def isConsecutive : List Nat → Bool
  | a :: b :: rest => b == nextPort a && isConsecutive (b :: rest)
  | _ => true

/-- What a list of ports gets wrong: it has to hold some, each from `1` to `65535`, and only one
unless `ranges` are admitted, in which case they follow each other. -/
def portViolations (field : String) (ports : List Nat) (ranges : Bool) : List String :=
  if ports.isEmpty then [s!"{field}: obligatorio"]
  else
    (if ports.any fun p => p == 0 || 65535 < p then [s!"{field}: fuera del rango 1-65535"]
     else []) ++
    (if !ranges && 1 < ports.length then [s!"{field}: se admite un solo valor"]
     else if !isConsecutive ports then [s!"{field}: el rango debe ser ascendente"]
     else [])

end BalancerImport
