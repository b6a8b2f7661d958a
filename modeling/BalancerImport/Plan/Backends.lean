import BalancerImport.Plan.Basic
import BalancerImport.Record.Backend

/-!
# Plans for backends

One flow for each balancer binds its backends, target group after target group, in one chain of
batches.

* `BackendPlan.entry`, `BackendPlan.params`: the parameters of a task;
* `BackendPlan.compile`: the plans of backend records.
-/

namespace BalancerImport.BackendPlan

/-- The name of the flows. -/
def flowName : String := "target_group_add_rs"

/-- The action of their tasks. -/
def action : String := "target_group_add_rs"

/-- What is known of where a backend runs: its instance, or only its address. -/
def placement (r : BackendRecord) : List (String × Json) :=
  match r.inst with
  | some i =>
    [("cloud_inst_id", .str i.cloudId), ("inst_name", .str i.name),
      ("private_ip_address", .strs i.privateV4), ("public_ip_address", .strs i.publicV4),
      ("cloud_vpc_ids", .strs i.vpcs)] ++
    (if i.zone.isEmpty then [] else [("zone", .str i.zone)])
  | none =>
    [("private_ip_address", .strs [r.ip]), ("public_ip_address", .arr []),
      ("cloud_vpc_ids", .arr [])]

/-- A backend to be bound. -/
def entry (ctx : Context) (group : String) (r : BackendRecord) : Json :=
  .obj ([("ip", .str r.ip), ("inst_type", .str r.kind),
      ("port", .nat (r.firstBackendPort?.getD 0)), ("weight", .int (r.weight.getD 0)),
      ("account_id", .str ctx.account), ("target_group_id", .str group)] ++ placement r)

/-- The parameters of a task. -/
def params (ctx : Context) (lbId group : String) (batch : List (Uuid × BackendRecord)) : Json :=
  .obj [("vendor", Named.encode ctx.vendor), ("management_detail_ids", itemIds batch),
    ("target_group_id", .str group), ("lb_id", .str lbId),
    ("rs_list", .arr (batch.map fun item => entry ctx group item.2))]

/-- The batches of target groups in order, with one source of action ids. -/
def chainGroups (ctx : Context) (limits : Limits) (lbId : String) :
    ActionIds → List (String × List (Uuid × BackendRecord)) →
      Except PlanError (List (Task × List (Uuid × BackendRecord)))
  | _, [] => .ok []
  | ids, (group, items) :: rest =>
    match chainBatches action limits.backends limits.retry
      (fun batch => .ok (params ctx lbId group batch)) items ids with
    | (.error e, _) => .error e
    | (.ok batches, ids) => (chainGroups ctx limits lbId ids rest).map (batches ++ ·)

/-- The plan of the records of one balancer, each with its target group. -/
def plan (ctx : Context) (limits : Limits)
    (group : String × List (String × (Uuid × BackendRecord))) : Except PlanError Plan :=
  let (lbId, items) := group
  let groups := groupByKey items
  (chainGroups ctx limits lbId .standard groups).map fun batches =>
    { flowName := flowName, lbId := lbId, key := .balancer lbId, purpose := .addBackend,
      subKind := some .targetGroup, subIds := groups.map Prod.fst, tasks := batches.map Prod.fst,
      itemActions := itemActionsOf batches }

/-- An item with the balancer and the target group of its record. -/
def keyed (item : Uuid × BackendRecord) :
    Except PlanError (String × (String × (Uuid × BackendRecord))) :=
  match item.2.targetGroup with
  | none => .error (.unresolvedGroup item.2.ip item.2.backendPorts)
  | some group => (resolvedBalancer item.2).map (·, group, item)

/-- The plans of records. -/
def compile : Compiler BackendRecord := fun ctx limits items =>
  match mapUntilError keyed items with
  | .error e => .error e
  | .ok keyed => mapUntilError (plan ctx limits) (groupByKey keyed)

end BalancerImport.BackendPlan
