import BalancerImport.Ledger.Entry

/-!
# A ledger in memory

Jobs and items as lists, in the order of their creation. The ledger can be told to lose items while
they are created, and to refuse updates or deletions.

* `MemoryLedger` and its instance of `LedgerStore`;
* `MemoryLedger.applyUpdates`: updates are applied one by one, up to the first missing item.
-/

namespace BalancerImport

/-- A ledger in memory. -/
structure MemoryLedger where
  jobs : List Job
  items : List Item
  /-- How many jobs were ever created. -/
  jobsDrawn : Nat
  /-- How many items were ever created. -/
  itemsDrawn : Nat
  /-- Where fresh identifiers start. -/
  seed : Nat
  /-- How many items of each creation are lost. -/
  lostOnCreate : Nat
  refusesDeletes : Bool
  refusesUpdates : Bool
  deriving Repr

namespace MemoryLedger

/-- A ledger without entries. -/
def empty (seed : Nat) : MemoryLedger :=
  { jobs := [], items := [], jobsDrawn := 0, itemsDrawn := 0, seed := seed, lostOnCreate := 0,
    refusesDeletes := false, refusesUpdates := false }

/-- Creates a job. -/
def createJob (n : NewJob) (s : MemoryLedger) : Except StoreError Uuid × MemoryLedger :=
  let id := Uuid.drawn s.seed .job s.jobsDrawn
  (.ok id, { s with jobs := s.jobs ++ [n.start id], jobsDrawn := s.jobsDrawn + 1 })

/-- New items with fresh identifiers, from the `n`-th on. -/
def startItems (seed : Nat) : Nat → List NewItem → List Item
  | _, [] => []
  | n, new :: rest => new.start (Uuid.drawn seed .item n) :: startItems seed (n + 1) rest

/-- Creates items, but loses some at the end. -/
def createItems (new : List NewItem) (s : MemoryLedger) :
    Except StoreError (List Uuid) × MemoryLedger :=
  let kept := startItems s.seed s.itemsDrawn (new.take (new.length - s.lostOnCreate))
  (.ok (kept.map Item.id),
   { s with items := s.items ++ kept, itemsDrawn := s.itemsDrawn + kept.length })

/-- The job with an id. -/
def job? (id : Uuid) (s : MemoryLedger) : Option Job := s.jobs.find? fun j => j.id == id

/-- Sets the flows of a job. -/
def setFlows (id : Uuid) (flows : List Uuid) (s : MemoryLedger) :
    Except StoreError Unit × MemoryLedger :=
  if s.refusesUpdates then (.error (.refused "update_job_flows"), s)
  else if (s.job? id).isNone then (.error (.unknownJob id), s)
  else
    let set (j : Job) : Job := if j.id = id then { j with flows := flows } else j
    (.ok (), { s with jobs := s.jobs.map set })

/-- An item with its flow and actions set, if the update is about it. -/
def applyTo (u : ItemUpdate) (i : Item) : Item :=
  if i.id = u.item then { i with flow := some u.flow, actions := u.actions } else i

/-- Applies updates in order, up to the first that names a missing item. -/
def applyUpdates : List ItemUpdate → List Item → Except StoreError Unit × List Item
  | [], items => (.ok (), items)
  | u :: us, items =>
    if items.any fun i => i.id == u.item then applyUpdates us (items.map (applyTo u))
    else (.error (.unknownItem u.item), items)

/-- Sets the flows and actions of items. -/
def updateItems (updates : List ItemUpdate) (s : MemoryLedger) :
    Except StoreError Unit × MemoryLedger :=
  if s.refusesUpdates then (.error (.refused "update_task_items"), s)
  else
    let (answer, items) := applyUpdates updates s.items
    (answer, { s with items := items })

/-- Deletes a job. -/
def deleteJob (id : Uuid) (s : MemoryLedger) : Except StoreError Unit × MemoryLedger :=
  if s.refusesDeletes then (.error (.refused "delete_job"), s)
  else (.ok (), { s with jobs := s.jobs.filter fun j => j.id != id })

/-- Deletes items. -/
def deleteItems (ids : List Uuid) (s : MemoryLedger) : Except StoreError Unit × MemoryLedger :=
  if s.refusesDeletes then (.error (.refused "delete_task_items"), s)
  else (.ok (), { s with items := s.items.filter fun i => !ids.contains i.id })

/-- The items of a job. -/
def itemsOf (id : Uuid) (s : MemoryLedger) : List Item := s.items.filter fun i => i.job == id

instance : LedgerStore MemoryLedger where
  createJob := createJob
  createItems _ := createItems
  setFlows := setFlows
  updateItems := updateItems
  deleteJob := deleteJob
  deleteItems := deleteItems
  job? id s := .ok (s.job? id)
  itemsOf id s := .ok (s.itemsOf id)

end MemoryLedger

end BalancerImport
