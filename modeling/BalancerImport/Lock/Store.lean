import BalancerImport.Ledger.Entry
import BalancerImport.Ledger.Column
import BalancerImport.Ledger.Value
import BalancerImport.Cloud.Json

/-!
# Locks

A lock says which flow works on a resource. A resource has one lock at most.

* `ResourceKey`, `ResourceLock`, `Acquired`;
* `LockStore`: what a store of locks can be asked;
* `LockList`: locks in memory; `LockTable`: locks as rows of columns.
-/

namespace BalancerImport

/-- A resource that can be locked. -/
structure ResourceKey where
  kind : ResourceKind
  id : String
  deriving DecidableEq, Repr

/-- The text of a key. -/
def ResourceKey.text (key : ResourceKey) : String := s!"{Named.name key.kind}/{key.id}"

/-- The key of a balancer. -/
def ResourceKey.balancer (id : String) : ResourceKey := { kind := .loadBalancer, id := id }

/-- A lock that a flow holds on a resource. -/
structure ResourceLock where
  key : ResourceKey
  owner : Uuid
  purpose : LockPurpose
  createdAt : Instant
  deriving DecidableEq, Repr

/-- Writes a lock, without the moment of its creation. -/
def ResourceLock.encode (l : ResourceLock) : Json :=
  .obj [("key", .obj [("res_id", .str l.key.id), ("res_type", Named.encode l.key.kind)]),
    ("owner_flow_id", .str l.owner.text), ("task_type", Named.encode l.purpose)]

/-- The outcome of trying to acquire a lock. -/
inductive Acquired where
  | acquired
  | busy (owner : Uuid)
  deriving DecidableEq, Repr

/-- What a store of locks can be asked. -/
class LockStore (σ : Type) where
  /-- Takes a lock if nobody holds its key. -/
  tryAcquire : ResourceLock → σ → Except StoreError Acquired × σ
  /-- The lock on a key. -/
  lock? : ResourceKey → σ → Except StoreError (Option ResourceLock)
  /-- Releases the lock on a key if `owner` holds it; whether it did. -/
  release : ResourceKey → Uuid → σ → Except StoreError Bool × σ
  /-- All locks. -/
  locks : σ → Except StoreError (List ResourceLock)

/-! ## In memory -/

/-- Locks in memory. -/
structure LockList where
  entries : List ResourceLock
  deriving DecidableEq, Repr

namespace LockList

/-- No locks. -/
def empty : LockList := { entries := [] }

/-- The lock on a key. -/
def lock? (key : ResourceKey) (s : LockList) : Option ResourceLock :=
  s.entries.find? fun l => l.key == key

/-- Takes a lock if nobody holds its key. -/
def tryAcquire (l : ResourceLock) (s : LockList) : Acquired × LockList :=
  match s.lock? l.key with
  | some held => (.busy held.owner, s)
  | none => (.acquired, { entries := s.entries ++ [l] })

/-- Whether a lock is on a key and held by an owner. -/
def holds (key : ResourceKey) (owner : Uuid) (l : ResourceLock) : Bool :=
  l.key == key && l.owner == owner

/-- Releases a lock. -/
def release (key : ResourceKey) (owner : Uuid) (s : LockList) : Bool × LockList :=
  (s.entries.any (holds key owner), { entries := s.entries.filter fun l => !holds key owner l })

instance : LockStore LockList where
  tryAcquire l s := let (answer, s) := s.tryAcquire l; (.ok answer, s)
  lock? key s := .ok (s.lock? key)
  release key owner s := let (answer, s) := s.release key owner; (.ok answer, s)
  locks s := .ok s.entries

end LockList

/-! ## In a database table -/

/-- A row of the table of locks. -/
structure LockRow where
  kind : String
  id : String
  owner : String
  purpose : String
  createdAt : SqlValue
  deriving DecidableEq, Repr

/-- The lock that a row holds. -/
def LockRow.read (row : LockRow) : Except StoreError ResourceLock := do
  let kind ← Stored.parse row.kind
  let owner ← Stored.readId row.owner
  let purpose ← Stored.parse row.purpose
  return { key := { kind, id := row.id }, owner, purpose,
           createdAt := row.createdAt.toInt }

/-- The row of a lock. -/
def LockRow.ofLock (l : ResourceLock) : LockRow :=
  { kind := Named.name l.key.kind, id := l.key.id, owner := l.owner.text,
    purpose := Named.name l.purpose, createdAt := .integer l.createdAt }

/-- The locks of rows, up to the first that cannot be read. -/
def LockRow.readAll : List LockRow → Except StoreError (List ResourceLock)
  | [] => .ok []
  | row :: rows =>
    match row.read with
    | .error e => .error e
    | .ok l => (readAll rows).map (l :: ·)

/-- Whether a row is about a resource. -/
def LockRow.isOn (key : ResourceKey) (row : LockRow) : Bool :=
  row.kind == Named.name key.kind && row.id == key.id

/-- Locks as rows of a table whose primary key is the resource. -/
structure LockTable where
  rows : List LockRow
  deriving DecidableEq, Repr

namespace LockTable

/-- A table without rows. -/
def empty : LockTable := { rows := [] }

/-- Inserts a row, unless its primary key is taken. -/
def insert? (row : LockRow) (s : LockTable) : Option LockTable :=
  if s.rows.any fun taken => taken.kind == row.kind && taken.id == row.id then none
  else some { rows := s.rows ++ [row] }

/-- Tries to insert a lock, at most so many times. If its primary key is taken, the row with that key
names the holder; if there is no such row any more, the lock is tried again. -/
def acquireWithin : Nat → ResourceLock → LockTable → Except StoreError Acquired × LockTable
  | 0, l, s => (.error (.notAcquired l.key.text), s)
  | tries + 1, l, s =>
    match s.insert? (.ofLock l) with
    | some s => (.ok .acquired, s)
    | none =>
      match s.rows.find? (LockRow.isOn l.key) with
      | some held => ((Stored.readId held.owner).map Acquired.busy, s)
      | none => acquireWithin tries l s

/-- Inserts a lock, unless somebody holds its key. -/
def tryAcquire (l : ResourceLock) (s : LockTable) : Except StoreError Acquired × LockTable :=
  s.acquireWithin 2 l

/-- The lock on a key. -/
def lock? (key : ResourceKey) (s : LockTable) : Except StoreError (Option ResourceLock) :=
  match s.rows.find? (LockRow.isOn key) with
  | none => .ok none
  | some row => row.read.map some

/-- Whether a row is on a key and held by an owner. -/
def holds (key : ResourceKey) (owner : Uuid) (row : LockRow) : Bool :=
  row.isOn key && row.owner == owner.text

/-- Deletes the row of a lock. -/
def release (key : ResourceKey) (owner : Uuid) (s : LockTable) : Bool × LockTable :=
  (s.rows.any (holds key owner), { rows := s.rows.filter fun row => !holds key owner row })

instance : LockStore LockTable where
  tryAcquire l s := s.tryAcquire l
  lock? key s := s.lock? key
  release key owner s := let (answer, s) := s.release key owner; (.ok answer, s)
  locks s := LockRow.readAll s.rows

/-- A row with another value in one column, if the column exists and takes the value; none is
null. -/
def setRowColumn? (column : String) (value : Option SqlValue) (row : LockRow) :
    Option LockRow := do
  let v ← value
  match column with
  | "res_type" => return { row with kind := v.asText }
  | "res_id" => return { row with id := v.asText }
  | "owner_flow_id" => return { row with owner := v.asText }
  | "task_type" => return { row with purpose := v.asText }
  | "created_at_ts" => return { row with createdAt := v.asNumeric }
  | _ => none

/-- Puts a raw value into a column of the locks on a resource id; how many there were. -/
def setColumn (id column : String) (value : Option SqlValue) (s : LockTable) :
    Option Nat × LockTable :=
  match putColumn? (fun row : LockRow => (row.kind, row.id)) (fun row => row.id == id)
      (setRowColumn? column value) s.rows with
  | some (n, rows) => (some n, { rows := rows })
  | none => (none, s)

end LockTable

end BalancerImport
