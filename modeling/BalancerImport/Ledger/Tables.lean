import BalancerImport.Ledger.Entry
import BalancerImport.Ledger.Column
import BalancerImport.Ledger.Value

/-!
# A ledger in database tables

Jobs and items as rows of columns. What a row holds is checked when it is read, column by column, so
a row that somebody spoiled fails with the first column that cannot be read. A column of integers
holds any value, since it keeps what cannot be turned into an integer. A batch of updates takes
effect as a whole or not at all.

* `JobRow`, `ItemRow`: rows; `JobRow.read`, `ItemRow.read`: the entries that they hold;
* `LedgerTables` and its instance of `LedgerStore`;
* `LedgerTables.setColumn`: spoiling a column.
-/

namespace BalancerImport

/-! ## Rows -/

/-- A row of the table of jobs. -/
structure JobRow where
  id : String
  business : SqlValue
  source : String
  vendor : String
  account : String
  resource : String
  operations : String
  state : String
  flows : String
  createdAt : SqlValue
  deriving DecidableEq, Repr

/-- The job that a row holds. -/
def JobRow.read (row : JobRow) : Except StoreError Job := do
  let flowTexts ← Stored.readTexts row.flows
  let id ← Stored.readId row.id
  let source ← Stored.parse row.source
  let vendor ← Stored.readVendor row.vendor
  let resource ← Stored.parse row.resource
  let operations ← Stored.readOperations row.operations
  let state ← Stored.parse row.state
  let flows ← Stored.readIds flowTexts
  return { id, business := row.business.toInt, source, vendor, account := row.account, resource,
           operations, state, flows }

/-- The row of a job. -/
def JobRow.ofJob (createdAt : Instant) (j : Job) : JobRow :=
  { id := j.id.text, business := .integer j.business, source := Named.name j.source,
    vendor := Named.name j.vendor, account := j.account, resource := Named.name j.resource,
    operations := Stored.writeOperations j.operations, state := Named.name j.state,
    flows := Stored.writeTexts (j.flows.map Uuid.text), createdAt := .integer createdAt }

/-- A row of the table of items. Items of one creation are numbered in order. -/
structure ItemRow where
  id : String
  job : String
  seq : SqlValue
  operation : String
  state : String
  param : String
  flow : Option String
  actions : String
  createdAt : SqlValue
  deriving DecidableEq, Repr

/-- The flow of an item. -/
def ItemRow.readFlow : Option String → Except StoreError (Option Uuid)
  | none => .ok none
  | some s => (Stored.readId s).map some

/-- The item that a row holds. -/
def ItemRow.read (row : ItemRow) : Except StoreError Item := do
  let id ← Stored.readId row.id
  let job ← Stored.readId row.job
  let operation ← Stored.parse row.operation
  let state ← Stored.parse row.state
  let param ← Stored.readJson row.param
  let flow ← ItemRow.readFlow row.flow
  let actions ← Stored.readTexts row.actions
  return { id, job, operation, state, param, flow, actions }

/-- The row of an item. -/
def ItemRow.ofItem (createdAt : Instant) (seq : Nat) (i : Item) : ItemRow :=
  { id := i.id.text, job := i.job.text, seq := .integer seq, operation := Named.name i.operation,
    state := Named.name i.state, param := i.param.render, flow := i.flow.map Uuid.text,
    actions := Stored.writeTexts i.actions, createdAt := .integer createdAt }

/-- The entries of rows, up to the first that cannot be read. -/
def ItemRow.readAll : List ItemRow → Except StoreError (List Item)
  | [] => .ok []
  | row :: rows =>
    match row.read with
    | .error e => .error e
    | .ok i => (readAll rows).map (i :: ·)

/-- Whether a row is listed before another or beside it: by the moment of creation, then by
number. -/
def ItemRow.le (a b : ItemRow) : Bool :=
  a.createdAt.lt b.createdAt || (a.createdAt.le b.createdAt && a.seq.le b.seq)

/-! ## Tables -/

/-- The tables of a ledger. -/
structure LedgerTables where
  jobs : List JobRow
  items : List ItemRow
  /-- How many jobs were ever created. -/
  jobsDrawn : Nat
  /-- How many items were ever created. -/
  itemsDrawn : Nat
  /-- Where fresh identifiers start. -/
  seed : Nat
  deriving Repr

namespace LedgerTables

/-- Tables without rows. -/
def empty (seed : Nat) : LedgerTables :=
  { jobs := [], items := [], jobsDrawn := 0, itemsDrawn := 0, seed := seed }

/-- Creates a job. -/
def createJob (n : NewJob) (s : LedgerTables) : Except StoreError Uuid × LedgerTables :=
  let id := Uuid.drawn s.seed .job s.jobsDrawn
  (.ok id,
   { s with jobs := s.jobs ++ [JobRow.ofJob 0 (n.start id)], jobsDrawn := s.jobsDrawn + 1 })

/-- Rows of new items with fresh identifiers: the `n`-th item ever, the `seq`-th of its creation. -/
def startRows (seed : Nat) (now : Instant) : Nat → Nat → List NewItem → List ItemRow
  | _, _, [] => []
  | n, seq, new :: rest =>
    ItemRow.ofItem now seq (new.start (Uuid.drawn seed .item n)) ::
      startRows seed now (n + 1) (seq + 1) rest

/-- The identifiers of new items, from the `n`-th ever on. -/
def drawnItems (seed n count : Nat) : List Uuid :=
  (List.range count).map fun k => Uuid.drawn seed .item (n + k)

/-- Creates items. -/
def createItems (now : Instant) (new : List NewItem) (s : LedgerTables) :
    Except StoreError (List Uuid) × LedgerTables :=
  (.ok (drawnItems s.seed s.itemsDrawn new.length),
   { s with items := s.items ++ startRows s.seed now s.itemsDrawn 0 new
            itemsDrawn := s.itemsDrawn + new.length })

/-- Sets the flows of a job. -/
def setFlows (id : Uuid) (flows : List Uuid) (s : LedgerTables) :
    Except StoreError Unit × LedgerTables :=
  let key := id.text
  let stored := Stored.writeTexts (flows.map Uuid.text)
  if s.jobs.any fun row => row.id == key then
    (.ok (), { s with jobs := s.jobs.map fun row =>
      if row.id = key then { row with flows := stored } else row })
  else (.error (.unknownJob id), s)

/-- The rows with the flow and the actions of one item set. -/
def applyUpdate (u : ItemUpdate) (rows : List ItemRow) : List ItemRow :=
  let key := u.item.text
  let flow := u.flow.text
  let actions := Stored.writeTexts u.actions
  rows.map fun row =>
    if row.id = key then { row with flow := some flow, actions := actions } else row

/-- Whether some row has an identifier. -/
def hasItem (id : Uuid) (rows : List ItemRow) : Bool :=
  let key := id.text
  rows.any fun row => row.id == key

/-- The rows after all updates, if each names some row. -/
def applyUpdates? : List ItemUpdate → List ItemRow → Option (List ItemRow)
  | [], rows => some rows
  | u :: us, rows =>
    if hasItem u.item rows then applyUpdates? us (applyUpdate u rows) else none

/-- Sets the flows and actions of items, of all or of none. -/
def updateItems (updates : List ItemUpdate) (s : LedgerTables) :
    Except StoreError Unit × LedgerTables :=
  match applyUpdates? updates s.items with
  | some rows => (.ok (), { s with items := rows })
  | none => (.error .unknownItemInBatch, s)

/-- Deletes a job. -/
def deleteJob (id : Uuid) (s : LedgerTables) : Except StoreError Unit × LedgerTables :=
  let key := id.text
  (.ok (), { s with jobs := s.jobs.filter fun row => row.id != key })

/-- Deletes items. -/
def deleteItems (ids : List Uuid) (s : LedgerTables) : Except StoreError Unit × LedgerTables :=
  let keys := ids.map Uuid.text
  (.ok (), { s with items := s.items.filter fun row => !keys.contains row.id })

/-- The job with an id. -/
def job? (id : Uuid) (s : LedgerTables) : Except StoreError (Option Job) :=
  let key := id.text
  match s.jobs.find? fun row => row.id == key with
  | none => .ok none
  | some row => row.read.map some

/-- The items of a job. -/
def itemsOf (id : Uuid) (s : LedgerTables) : Except StoreError (List Item) :=
  let key := id.text
  ItemRow.readAll ((s.items.filter fun row => row.job == key).mergeSort ItemRow.le)

instance : LedgerStore LedgerTables where
  createJob := createJob
  createItems := createItems
  setFlows := setFlows
  updateItems := updateItems
  deleteJob := deleteJob
  deleteItems := deleteItems
  job? := job?
  itemsOf := itemsOf

end LedgerTables

/-! ## Spoiling columns -/

/-- A row with another value in one column, if the column exists and takes the value; none is
null. -/
def JobRow.setColumn? (column : String) (value : Option SqlValue) (row : JobRow) :
    Option JobRow := do
  let v ← value
  match column with
  | "id" => return { row with id := v.asText }
  | "bk_biz_id" => return { row with business := v.asNumeric }
  | "source" => return { row with source := v.asText }
  | "vendor" => return { row with vendor := v.asText }
  | "account_id" => return { row with account := v.asText }
  | "resource" => return { row with resource := v.asText }
  | "operations" => return { row with operations := v.asText }
  | "state" => return { row with state := v.asText }
  | "flow_ids" => return { row with flows := v.asText }
  | "created_at_ts" => return { row with createdAt := v.asNumeric }
  | _ => none

/-- A row with another value in one column other than that of the flow, if the column exists. -/
def ItemRow.withColumn? (column : String) (v : SqlValue) (row : ItemRow) : Option ItemRow :=
  match column with
  | "id" => some { row with id := v.asText }
  | "job_id" => some { row with job := v.asText }
  | "seq" => some { row with seq := v.asNumeric }
  | "operation" => some { row with operation := v.asText }
  | "state" => some { row with state := v.asText }
  | "param" => some { row with param := v.asText }
  | "action_ids" => some { row with actions := v.asText }
  | "created_at_ts" => some { row with createdAt := v.asNumeric }
  | _ => none

/-- A row with another value in one column, if the column exists and takes the value; none is null,
which only the flow may be. -/
def ItemRow.setColumn? (column : String) (value : Option SqlValue) (row : ItemRow) :
    Option ItemRow :=
  if column = "flow_id" then some { row with flow := value.map SqlValue.asText }
  else value.bind fun v => row.withColumn? column v

namespace LedgerTables

/-- Puts a raw value into a column of the jobs with an id; how many there were. -/
def setJobColumn (id column : String) (value : Option SqlValue) (s : LedgerTables) :
    Option Nat × LedgerTables :=
  match putColumn? JobRow.id (fun row => row.id == id) (JobRow.setColumn? column value) s.jobs with
  | some (n, rows) => (some n, { s with jobs := rows })
  | none => (none, s)

/-- Puts a raw value into a column of the items with an id; how many there were. -/
def setItemColumn (id column : String) (value : Option SqlValue) (s : LedgerTables) :
    Option Nat × LedgerTables :=
  match putColumn? ItemRow.id (fun row => row.id == id) (ItemRow.setColumn? column value)
      s.items with
  | some (n, rows) => (some n, { s with items := rows })
  | none => (none, s)

end LedgerTables

end BalancerImport
