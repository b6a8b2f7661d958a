import BalancerImport.Ledger.Entry
import BalancerImport.Cloud.Json

/-!
# Entries of the ledger as documents

The JSON form of jobs and items, and of what a job is created from.
-/

namespace BalancerImport

/-- Writes identifiers. -/
def Uuid.encodeAll (ids : List Uuid) : Json := .strs (ids.map Uuid.text)

/-- Writes a job. -/
def Job.encode (j : Job) : Json :=
  .obj [("account_id", .str j.account), ("bk_biz_id", .int j.business),
    ("flow_ids", Uuid.encodeAll j.flows), ("id", .str j.id.text),
    ("operations", .arr (j.operations.map Named.encode)), ("resource", Named.encode j.resource),
    ("source", Named.encode j.source), ("state", Named.encode j.state),
    ("vendor", Named.encode j.vendor)]

/-- Writes an item. -/
def Item.encode (i : Item) : Json :=
  .obj [("action_ids", .strs i.actions), ("flow_id", .optStr (i.flow.map Uuid.text)),
    ("id", .str i.id.text), ("job_id", .str i.job.text), ("operation", Named.encode i.operation),
    ("param", i.param), ("state", Named.encode i.state)]

/-- Reads what a job is created from. -/
def NewJob.decode? (j : Json) : Option NewJob := do
  let m ← Json.fields? ["bk_biz_id", "source", "vendor", "account_id", "resource", "operations"] 6 j
  let business ← Json.field? m "bk_biz_id" Json.int64?
  let source ← Json.field? m "source" (Json.named? Named.table)
  let vendor ← Json.field? m "vendor" Vendor.decode?
  let account ← Json.field? m "account_id" Json.str?
  let resource ← Json.field? m "resource" (Json.named? Named.table)
  let operations ← Json.field? m "operations" (Json.listOf? (Json.named? Named.table))
  return { business, source, vendor, account, resource, operations }

end BalancerImport
