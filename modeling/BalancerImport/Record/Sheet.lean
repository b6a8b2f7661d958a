import BalancerImport.Record.Importable

/-!
# Sheets

Reading rows of cells into records, column by column. A row may be short; it may not be long.

* `SheetFault`: why a sheet cannot be read, and its wording;
* `readRow`, `readRows`: the records of rows.
-/

namespace BalancerImport

/-- Why a sheet cannot be read. Lines count from one. -/
inductive SheetFault where
  /-- A row with more cells than the sheet has columns. -/
  | longRow (line cells columns : Nat)
  /-- A cell that cannot be read. -/
  | badCell (line : Nat) (column : String) (fault : CellFault)
  deriving DecidableEq, Repr

/-- The wording of a fault. -/
def SheetFault.message : SheetFault → String
  | longRow line cells columns => s!"línea {line}: {cells} columnas, la forma admite {columns}"
  | badCell line column fault => s!"línea {line} columna {column}: {fault.message}"

namespace Sheet

variable {R : Type}

/-- Reads the cells of a row into a record, until one side ends. -/
def readCells (line : Nat) : List (Column R) → List String → R → Except SheetFault R
  | column :: columns, cell :: cells, r =>
    match column.read (Text.trim cell) r with
    | .error fault => .error (.badCell line column.name fault)
    | .ok r => readCells line columns cells r
  | _, _, r => .ok r

/-- Reads a row. -/
def readRow (columns : List (Column R)) (blank : R) (line : Nat) (cells : List String) :
    Except SheetFault R :=
  if columns.length < cells.length then .error (.longRow line cells.length columns.length)
  else readCells line columns cells blank

/-- Reads rows from a line on, up to the first that cannot be read. -/
def readRowsFrom (columns : List (Column R)) (blank : R) :
    Nat → List (List String) → Except SheetFault (List R)
  | _, [] => .ok []
  | line, row :: rows =>
    match readRow columns blank line row with
    | .error fault => .error fault
    | .ok r => (readRowsFrom columns blank (line + 1) rows).map (r :: ·)

/-- The records of the rows of a sheet. -/
def readRows [Importable R] (rows : List (List String)) : Except SheetFault (List R) :=
  readRowsFrom Importable.columns Importable.blank 1 rows

end Sheet

end BalancerImport
