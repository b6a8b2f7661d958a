import BalancerImport.Import.Execution

/-!
# The import service

The calls that a front end makes, on JSON documents: previewing rows, validating records again,
executing them, and looking at a job. Which records they are about depends on the operation, and
which operations there are on the vendor.

* `Offer`: what a vendor offers for an operation; `Offer.find`, `Offer.supported`;
* `Service.preview`, `Service.validate`, `Service.execute`, `Service.job`.
-/

namespace BalancerImport

/-! ## Offers -/

/-- What a vendor offers for an operation: a kind of record with a capability. -/
structure Offer where
  vendor : Vendor
  Record : Type
  importable : Importable Record
  capability : Capability Record

instance (o : Offer) : Importable o.Record := o.importable

namespace Offer

/-- The operation of an offer. -/
def operation (o : Offer) : Operation := Importable.operation o.Record

/-- Creating listeners. -/
def listeners : Offer :=
  { vendor := .tcloud, Record := ListenerRecord, importable := inferInstance,
    capability := listenerCapability }

/-- Binding backends. -/
def backends : Offer :=
  { vendor := .tcloud, Record := BackendRecord, importable := inferInstance,
    capability := backendCapability }

/-- All offers, by vendor and operation. -/
def all : List Offer := [listeners, backends]

/-- The vendors and operations of all offers. -/
def supported : List (Vendor × Operation) := all.map fun o => (o.vendor, o.operation)

/-- The operations that a vendor offers. -/
def operationsOf (vendor : Vendor) : List Operation :=
  (supported.filter fun offer => offer.1 == vendor).map Prod.snd

/-- The offer of a vendor for an operation. -/
def find (vendor : Vendor) (operation : Operation) : Except ImportError Offer :=
  match all.find? fun o => o.vendor == vendor && o.operation == operation with
  | some o => .ok o
  | none => .error (.unsupported vendor operation)

/-- The records of a document. -/
def decode (o : Offer) (document : Json) : Except ImportError (List o.Record) :=
  match Importable.decodeAll? document with
  | some rs => .ok rs
  | none => .error (.malformedRecords o.operation)

end Offer

/-! ## Calls -/

namespace Service

variable {L K : Type}

/-- Reads rows of cells and validates the records that they hold. -/
def preview (ctx : Context) (operation : Operation) (rows : List (List String)) (d : Desk L K) :
    Except ImportError Json × Desk L K :=
  match Offer.find ctx.vendor operation with
  | .error e => (.error e, d)
  | .ok o =>
    match (Sheet.readRows rows : Except SheetFault (List o.Record)) with
    | .error fault => (.error (.sheet fault), d)
    | .ok rs =>
      let (answer, d) := d.validate o.capability.rules ctx rs
      (answer.map Importable.encodeAll, d)

/-- Validates records again. -/
def validate (ctx : Context) (operation : Operation) (records : Json) (d : Desk L K) :
    Except ImportError Json × Desk L K :=
  match Offer.find ctx.vendor operation with
  | .error e => (.error e, d)
  | .ok o =>
    match o.decode records with
    | .error e => (.error e, d)
    | .ok rs =>
      let (answer, d) := d.validate o.capability.rules ctx rs
      (answer.map Importable.encodeAll, d)

/-- Executes records. -/
def execute [LedgerStore L] [LockStore K] (ctx : Context) (operation : Operation) (source : Source)
    (records : Json) (d : Desk L K) : Except ImportError Report × Desk L K :=
  match Offer.find ctx.vendor operation with
  | .error e => (.error e, d)
  | .ok o =>
    match o.decode records with
    | .error e => (.error e, d)
    | .ok rs => d.execute o.capability ctx source rs

/-- A job with its items. -/
def job [LedgerStore L] (id : Uuid) (d : Desk L K) : Except ImportError (Job × List Item) :=
  match LedgerStore.job? id d.ledger with
  | .error e => .error (.store e)
  | .ok none => .error (.unknownJob id)
  | .ok (some job) =>
    match LedgerStore.itemsOf id d.ledger with
    | .error e => .error (.store e)
    | .ok items => .ok (job, items)

end Service

end BalancerImport
