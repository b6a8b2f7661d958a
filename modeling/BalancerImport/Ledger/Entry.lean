import BalancerImport.Ledger.Kind
import BalancerImport.Json.Basic

/-!
# Entries of the ledger

A job stands for one import, an item for one record of it.

* `Job`, `Item`: entries; `NewJob`, `NewItem`: what they are created from; `ItemUpdate`: the flow
  and the actions of an item;
* `LedgerStore`: what a ledger can be asked. A request answers, or fails, and leaves a ledger.
-/

namespace BalancerImport

/-- A moment, in milliseconds since the beginning of 1970. -/
abbrev Instant := Int

/-- What a job is created from. -/
structure NewJob where
  business : Int
  source : Source
  vendor : Vendor
  account : String
  resource : ResourceKind
  operations : List Operation
  deriving DecidableEq, Repr

/-- An import. -/
structure Job where
  id : Uuid
  business : Int
  source : Source
  vendor : Vendor
  account : String
  resource : ResourceKind
  operations : List Operation
  state : JobState
  flows : List Uuid
  deriving DecidableEq, Repr

/-- A running job without flows. -/
def NewJob.start (n : NewJob) (id : Uuid) : Job :=
  { id := id, business := n.business, source := n.source, vendor := n.vendor, account := n.account,
    resource := n.resource, operations := n.operations, state := .running, flows := [] }

/-- What an item is created from. -/
structure NewItem where
  job : Uuid
  operation : Operation
  param : Json
  deriving Repr

/-- A record of an import. -/
structure Item where
  id : Uuid
  job : Uuid
  operation : Operation
  state : ItemState
  param : Json
  flow : Option Uuid
  actions : List String
  deriving Repr

/-- An item that no flow works on yet. -/
def NewItem.start (n : NewItem) (id : Uuid) : Item :=
  { id := id, job := n.job, operation := n.operation, state := .init, param := n.param,
    flow := none, actions := [] }

/-- The flow and the actions that work on an item. -/
structure ItemUpdate where
  item : Uuid
  flow : Uuid
  actions : List String
  deriving DecidableEq, Repr

/-- What a ledger can be asked. -/
class LedgerStore (σ : Type) where
  /-- Creates a running job. -/
  createJob : NewJob → σ → Except StoreError Uuid × σ
  /-- Creates items at a moment; their ids are in the order of the items. -/
  createItems : Instant → List NewItem → σ → Except StoreError (List Uuid) × σ
  /-- Sets the flows of a job. -/
  setFlows : Uuid → List Uuid → σ → Except StoreError Unit × σ
  /-- Sets the flows and actions of items. -/
  updateItems : List ItemUpdate → σ → Except StoreError Unit × σ
  /-- Deletes a job. -/
  deleteJob : Uuid → σ → Except StoreError Unit × σ
  /-- Deletes items. -/
  deleteItems : List Uuid → σ → Except StoreError Unit × σ
  /-- The job with an id. -/
  job? : Uuid → σ → Except StoreError (Option Job)
  /-- The items of a job, in the order of their creation. -/
  itemsOf : Uuid → σ → Except StoreError (List Item)

end BalancerImport
