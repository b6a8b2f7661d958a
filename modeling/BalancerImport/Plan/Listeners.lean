import BalancerImport.Plan.Basic
import BalancerImport.Record.Listener

/-!
# Plans for listeners

One flow for each balancer creates its listeners, batch after batch.

* `ListenerPlan.entry`, `ListenerPlan.params`: the parameters of a task;
* `ListenerPlan.compile`: the plans of listener records.
-/

namespace BalancerImport.ListenerPlan

/-- The name of the flows. -/
def flowName : String := "load_balancer_create_listener"

/-- The action of their tasks. -/
def action : String := "batch_task_tcloud_create_listener"

/-- The certificates of a listener to be created. -/
def certificate (r : ListenerRecord) : Json :=
  .obj ((if r.sslMode.isEmpty then [] else [("ssl_mode", .str r.sslMode)]) ++
    (if r.ca.isEmpty then [] else [("ca_cloud_id", .str r.ca)]) ++
    [("cert_cloud_ids", .strs r.certificates)])

/-- A listener to be created. -/
def entry (ctx : Context) (lbId : String) (r : ListenerRecord) : Json :=
  let port := r.firstPort?.getD 0
  .obj ([("name", .str s!"{r.protocol}-{port}"), ("bk_biz_id", .int ctx.business),
      ("lb_id", .str lbId), ("protocol", .str r.protocol), ("port", .nat port)] ++
    (match r.endPort? with
     | some last => [("end_port", .nat last)]
     | none => []) ++
    [("sni_switch", .nat 0), ("certificate", certificate r)])

/-- The parameters of a task. -/
def params (ctx : Context) (lbId : String) (batch : List (Uuid × ListenerRecord)) : Json :=
  .obj [("management_detail_ids", itemIds batch),
    ("listeners", .arr (batch.map fun item => entry ctx lbId item.2))]

/-- The plan of the records of one balancer. -/
def plan (ctx : Context) (limits : Limits) (group : String × List (Uuid × ListenerRecord)) :
    Except PlanError Plan :=
  let (lbId, items) := group
  (chainBatches action limits.listeners limits.retry (fun batch => .ok (params ctx lbId batch))
    items .standard).1.map fun batches =>
    { flowName := flowName, lbId := lbId, key := .balancer lbId, purpose := .createListener,
      subKind := none, subIds := [], tasks := batches.map Prod.fst,
      itemActions := itemActionsOf batches }

/-- An item with the balancer of its record. -/
def keyed (item : Uuid × ListenerRecord) : Except PlanError (String × (Uuid × ListenerRecord)) :=
  (resolvedBalancer item.2).map (·, item)

/-- The plans of records. -/
def compile : Compiler ListenerRecord := fun ctx limits items =>
  match mapUntilError keyed items with
  | .error e => .error e
  | .ok keyed => mapUntilError (plan ctx limits) (groupByKey keyed)

end BalancerImport.ListenerPlan
