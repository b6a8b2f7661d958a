import BalancerImport.Import.Service
import BalancerImport.Proofs.Plan.Batches

/-!
# Compiling records

Both ways to compile records divide them among plans, one plan for each balancer.

* `Plan.Carries`: the tasks of a plan and its actions of items are about the same items;
  `Plan.Carries.action_of_item`: each item has an action among the tasks, which names it;
* `Partitions`: the plans of items; `Partitions.of_groups`: plans of groups by balancer;
* `BackendPlan.chainGroups_eq`: the tasks of the backends of a balancer are those of its groups in
  turn;
* **`Offer.compile_partitions`**: what the compiler of an offer accepts, it divides.
-/

namespace BalancerImport

/-- The parameter of a task that names its items. -/
def itemsField : String := "management_detail_ids"

/-! ## Plans and their items -/

/-- A plan locks its balancer and works on items, batch after batch: the actions of items are those
of the tasks in whose batches they are, and the parameters of a task name the items of its batch. -/
structure Plan.Carries {R : Type} (p : Plan) (items : List (Uuid × R)) : Prop where
  key : p.key = .balancer p.lbId
  batches : ∃ batches : List (Task × List (Uuid × R)),
    p.tasks = batches.map Prod.fst ∧ p.itemActions = itemActionsOf batches ∧
    (batches.flatMap Prod.snd).Perm items ∧
    ∀ b ∈ batches, b.1.params.member? itemsField = some (itemIds b.2)

namespace Plan.Carries

variable {R : Type} {p : Plan} {items : List (Uuid × R)}

/-- Each item has one action. -/
theorem map_fst_perm (h : p.Carries items) :
    (p.itemActions.map Prod.fst).Perm (items.map Prod.fst) := by
  obtain ⟨batches, -, hactions, hperm, -⟩ := h.batches
  rw [hactions]
  have hfst : (itemActionsOf batches).map Prod.fst = (batches.flatMap Prod.snd).map Prod.fst := by
    simp [itemActionsOf, List.map_flatMap, Function.comp_def]
  rw [hfst]
  exact hperm.map _

theorem item_of_action (h : p.Carries items) {a : Uuid × String} (ha : a ∈ p.itemActions) :
    ∃ item ∈ items, item.1 = a.1 :=
  List.mem_map.mp (h.map_fst_perm.subset (List.mem_map_of_mem ha))

/-- The action of an item is that of a task whose parameters name the item. -/
theorem action_of_item (h : p.Carries items) {item : Uuid × R} (hi : item ∈ items) :
    ∃ t ∈ p.tasks, (item.1, t.id) ∈ p.itemActions ∧
      ∃ ids, t.params.member? itemsField = some (.strs ids) ∧ item.1.text ∈ ids := by
  obtain ⟨batches, htasks, hactions, hperm, hparams⟩ := h.batches
  obtain ⟨b, hb, hib⟩ := List.mem_flatMap.mp (hperm.symm.subset hi)
  refine ⟨b.1, ?_, ?_, _, hparams b hb, List.mem_map_of_mem hib⟩
  · rw [htasks]
    exact List.mem_map_of_mem hb
  · rw [hactions]
    exact List.mem_flatMap.mpr ⟨b, hb, List.mem_map.mpr ⟨item, hib, rfl⟩⟩

end Plan.Carries

/-- Plans that divide items: one plan for each balancer, in the order in which the balancers first
appear. -/
structure Partitions {R : Type} [Importable R] (items : List (Uuid × R)) (plans : List Plan) :
    Prop where
  resolved : ∀ item ∈ items, (Importable.lbId item.2).isSome
  balancers : plans.map Plan.lbId = (items.filterMap fun item => Importable.lbId item.2).eraseDups
  carries : ∀ p ∈ plans, p.Carries (items.filter fun item => Importable.lbId item.2 = some p.lbId)

section

variable {R γ : Type} [Importable R] {items : List (Uuid × R)} {plans : List Plan}

namespace Partitions

theorem nodup (h : Partitions items plans) : (plans.map Plan.lbId).Nodup := by
  rw [h.balancers]
  exact nodup_eraseDups _

/-- No two plans work on the same resource. -/
theorem nodup_keys (h : Partitions items plans) : (plans.map Plan.key).Nodup := by
  have hkeys : plans.map Plan.key = (plans.map Plan.lbId).map ResourceKey.balancer := by
    rw [List.map_map]
    exact List.map_congr_left fun p hp => (h.carries p hp).key
  rw [hkeys]
  exact h.nodup.map fun a b he => congrArg ResourceKey.id he

theorem exists_plan (h : Partitions items plans) {item : Uuid × R} (hi : item ∈ items) :
    ∃ p ∈ plans, Importable.lbId item.2 = some p.lbId := by
  obtain ⟨lbId, hlb⟩ := Option.isSome_iff_exists.mp (h.resolved item hi)
  have hm : lbId ∈ plans.map Plan.lbId := by
    rw [h.balancers, List.mem_eraseDups]
    exact List.mem_filterMap.mpr ⟨item, hi, hlb⟩
  obtain ⟨p, hp, rfl⟩ := List.mem_map.mp hm
  exact ⟨p, hp, hlb⟩

theorem exists_item (h : Partitions items plans) {p : Plan} (hp : p ∈ plans) :
    ∃ item ∈ items, Importable.lbId item.2 = some p.lbId := by
  have hm : p.lbId ∈ plans.map Plan.lbId := List.mem_map_of_mem hp
  rw [h.balancers, List.mem_eraseDups] at hm
  exact List.mem_filterMap.mp hm

/-- No two plans have an action for the same item. -/
theorem nodup_actions (h : Partitions items plans) (hnodup : (items.map Prod.fst).Nodup) :
    ((plans.flatMap Plan.itemActions).map Prod.fst).Nodup := by
  rw [List.map_flatMap, List.nodup_flatMap]
  constructor
  · intro p hp
    rw [(h.carries p hp).map_fst_perm.nodup_iff]
    exact hnodup.sublist (List.filter_sublist.map _)
  · have hdistinct := h.nodup
    rw [List.Nodup, List.pairwise_map] at hdistinct
    refine hdistinct.imp_of_mem fun {p q} hp hq hne id hidp hidq => hne ?_
    obtain ⟨i, hi, rfl⟩ := List.mem_map.mp ((h.carries p hp).map_fst_perm.subset hidp)
    obtain ⟨j, hj, hij⟩ := List.mem_map.mp ((h.carries q hq).map_fst_perm.subset hidq)
    rw [List.mem_filter, decide_eq_true_eq] at hi hj
    obtain rfl := List.inj_on_of_nodup_map hnodup hj.1 hi.1 hij
    exact Option.some.inj (hi.2.symm.trans hj.2)

end Partitions

theorem map_fst_of_keyed {get : γ → Uuid × R} {keyed : List (String × γ)}
    (h : ∀ k ∈ keyed, Importable.lbId (get k.2).2 = some k.1) :
    (keyed.map fun k => get k.2).filterMap (fun item => Importable.lbId item.2) =
      keyed.map Prod.fst := by
  rw [List.filterMap_map, ← List.filterMap_eq_map]
  exact List.filterMap_congr h

theorem map_itemsOfKey {get : γ → Uuid × R} {keyed : List (String × γ)}
    (h : ∀ k ∈ keyed, Importable.lbId (get k.2).2 = some k.1) (lbId : String) :
    (itemsOfKey lbId keyed).map get =
      (keyed.map fun k => get k.2).filter fun item => Importable.lbId item.2 = some lbId := by
  rw [itemsOfKey, List.map_map, List.filter_map]
  congr 1
  refine List.filter_congr fun k hk => ?_
  simp [h k hk]

/-- Plans made of the groups of items by balancer divide the items. -/
theorem Partitions.of_groups {keyed : List (String × γ)} {get : γ → Uuid × R}
    {plan : String × List γ → Except PlanError Plan}
    (hkeyed : ∀ k ∈ keyed, Importable.lbId (get k.2).2 = some k.1)
    (hplans : List.Forall₂ (fun group p => plan group = .ok p) (groupByKey keyed) plans)
    (hplan : ∀ group p, plan group = .ok p → p.lbId = group.1 ∧ p.Carries (group.2.map get)) :
    Partitions (keyed.map fun k => get k.2) plans := by
  constructor
  · intro item hm
    obtain ⟨k, hk, rfl⟩ := List.mem_map.mp hm
    rw [hkeyed k hk]
    rfl
  · rw [map_eq_of_forall₂ hplans fun group p h => (hplan group p h).1, groupByKey_eq,
      map_fst_of_keyed hkeyed, List.map_map]
    exact List.map_id' _
  · intro p hp
    obtain ⟨group, hg, h⟩ := exists_mem_of_forall₂ hplans hp
    rw [groupByKey_eq] at hg
    obtain ⟨lbId, -, rfl⟩ := List.mem_map.mp hg
    obtain ⟨hlb, hcarries⟩ := hplan _ _ h
    rw [hlb]
    rwa [map_itemsOfKey hkeyed] at hcarries

/-- Items that were given a key by a check of each one. -/
theorem keyed_of_forall₂ (get : γ → Uuid × R) {key : Uuid × R → Except PlanError (String × γ)}
    {keyed : List (String × γ)} (h : List.Forall₂ (fun item k => key item = .ok k) items keyed)
    (hkey : ∀ item k, key item = .ok k → get k.2 = item ∧ Importable.lbId item.2 = some k.1) :
    (keyed.map fun k => get k.2) = items ∧
      ∀ k ∈ keyed, Importable.lbId (get k.2).2 = some k.1 := by
  constructor
  · exact (map_eq_of_forall₂ h fun item k hk => (hkey item k hk).1).trans (List.map_id' _)
  · intro k hk
    obtain ⟨item, -, he⟩ := exists_mem_of_forall₂ h hk
    obtain ⟨hget, hlb⟩ := hkey item k he
    rw [hget, hlb]

theorem resolvedBalancer_ok {r : R} {lbId : String} (h : resolvedBalancer r = .ok lbId) :
    Importable.lbId r = some lbId := by
  unfold resolvedBalancer at h
  split at h
  · rename_i id hid
    rw [hid, Except.ok.inj h]
  · simp at h

end

/-! ## Listeners -/

namespace ListenerPlan

variable {ctx : Context} {limits : Limits} {items : List (Uuid × ListenerRecord)}
  {plans : List Plan}

theorem keyed_ok {item : Uuid × ListenerRecord} {k : String × (Uuid × ListenerRecord)}
    (h : keyed item = .ok k) : k.2 = item ∧ Importable.lbId item.2 = some k.1 := by
  unfold keyed at h
  obtain ⟨lbId, hlb, rfl⟩ := map_ok h
  exact ⟨rfl, resolvedBalancer_ok hlb⟩

theorem plan_ok {group : String × List (Uuid × ListenerRecord)} {p : Plan}
    (h : plan ctx limits group = .ok p) : p.lbId = group.1 ∧ p.Carries group.2 := by
  obtain ⟨lbId, items⟩ := group
  simp only [plan] at h
  obtain ⟨batches, hb, rfl⟩ := map_ok h
  obtain ⟨hitems, hparams⟩ := chainBatches_ok hb
  refine ⟨rfl, rfl, batches, rfl, rfl, by rw [hitems], fun b hm => ?_⟩
  rw [← Except.ok.inj (hparams b hm)]
  rfl

theorem compile_ok (h : compile ctx limits items = .ok plans) : Partitions items plans := by
  unfold compile at h
  split at h
  · simp at h
  · rename_i keyedItems hk
    obtain ⟨hitems, hlb⟩ := keyed_of_forall₂ id (mapUntilError_ok hk) fun _ _ => keyed_ok
    rw [← hitems]
    exact .of_groups hlb (mapUntilError_ok h) fun group p hp => by simpa using plan_ok hp

end ListenerPlan

/-! ## Backends -/

namespace BackendPlan

variable {ctx : Context} {limits : Limits} {items : List (Uuid × BackendRecord)}
  {plans : List Plan}

theorem keyed_ok {item : Uuid × BackendRecord} {k : String × (String × (Uuid × BackendRecord))}
    (h : keyed item = .ok k) : k.2.2 = item ∧ Importable.lbId item.2 = some k.1 := by
  unfold keyed at h
  split at h
  · simp at h
  · rename_i group _
    obtain ⟨lbId, hlb, rfl⟩ := map_ok h
    exact ⟨rfl, resolvedBalancer_ok hlb⟩

variable {lbId : String} {ids : ActionIds} {groups : List (String × List (Uuid × BackendRecord))}
  {batches : List (Task × List (Uuid × BackendRecord))}

/-- The target groups of a balancer are batched in turn. -/
theorem chainGroups_eq (ctx : Context) (limits : Limits) (lbId : String) :
    ∀ (groups : List (String × List (Uuid × BackendRecord))) (ids : ActionIds),
      chainGroups ctx limits lbId ids groups =
        (chainInTurn action limits.backends limits.retry
          (fun group batch => .ok (params ctx lbId group batch)) ids groups).map List.flatten
  | [], _ => rfl
  | (group, items) :: rest, ids => by
    rw [chainGroups, chainInTurn]
    rcases chainBatches action limits.backends limits.retry
      (fun batch => .ok (params ctx lbId group batch)) items ids with ⟨e | first, ids'⟩
    · rfl
    · simp only [chainGroups_eq ctx limits lbId rest ids']
      cases chainInTurn action limits.backends limits.retry
        (fun group batch => .ok (params ctx lbId group batch)) ids' rest <;> rfl

/-- The batches of groups are those of one group after the other. -/
theorem chainGroups_runs (h : chainGroups ctx limits lbId ids groups = .ok batches) :
    ∃ runs, batches = runs.flatten ∧ List.Forall₂ (fun group run =>
      run.flatMap Prod.snd = group.2 ∧
        ∀ b ∈ run, b.1.params = params ctx lbId group.1 b.2) groups runs := by
  rw [chainGroups_eq] at h
  obtain ⟨runs, hruns, rfl⟩ := map_ok h
  refine ⟨runs, rfl, (chainInTurn_ok hruns).1.imp fun group run hrun => ?_⟩
  obtain ⟨hcut, htasks⟩ := hrun
  refine ⟨?_, fun b hb => (Except.ok.inj (htasks b hb).params).symm⟩
  rw [List.flatMap_def, hcut, flatten_cut]

theorem chainGroups_ok (h : chainGroups ctx limits lbId ids groups = .ok batches) :
    batches.flatMap Prod.snd = groups.flatMap Prod.snd ∧
      ∀ b ∈ batches, ∃ group, b.1.params = params ctx lbId group b.2 := by
  obtain ⟨runs, rfl, hruns⟩ := chainGroups_runs h
  refine ⟨?_, fun b hb => ?_⟩
  · have hitems : runs.map (List.flatMap Prod.snd) = groups.map Prod.snd :=
      map_eq_of_forall₂ hruns fun _ _ hrun => hrun.1
    rw [List.flatMap_def, List.map_flatten, List.flatMap_def, ← hitems, List.flatten_flatten,
      List.map_map]
    rfl
  · obtain ⟨run, hrun, hb⟩ := List.mem_flatten.mp hb
    obtain ⟨group, -, -, hparams⟩ := exists_mem_of_forall₂ hruns hrun
    exact ⟨group.1, hparams b hb⟩

theorem plan_ok {group : String × List (String × (Uuid × BackendRecord))} {p : Plan}
    (h : plan ctx limits group = .ok p) :
    p.lbId = group.1 ∧ p.Carries (group.2.map Prod.snd) := by
  obtain ⟨lbId, items⟩ := group
  simp only [plan] at h
  obtain ⟨batches, hb, rfl⟩ := map_ok h
  obtain ⟨hitems, hparams⟩ := chainGroups_ok hb
  refine ⟨rfl, rfl, batches, rfl, rfl, hitems ▸ groupByKey_perm items, fun b hm => ?_⟩
  obtain ⟨group, hg⟩ := hparams b hm
  rw [hg]
  rfl

theorem compile_ok (h : compile ctx limits items = .ok plans) : Partitions items plans := by
  unfold compile at h
  split at h
  · simp at h
  · rename_i keyedItems hk
    obtain ⟨hitems, hlb⟩ := keyed_of_forall₂ Prod.snd (mapUntilError_ok hk) fun _ _ => keyed_ok
    rw [← hitems]
    exact .of_groups hlb (mapUntilError_ok h) fun _ _ => plan_ok

end BackendPlan

/-! ## Offers -/

/-- **What the compiler of an offer accepts, it divides among plans.** -/
theorem Offer.compile_partitions {o : Offer} (ho : o ∈ Offer.all) {ctx : Context} {limits : Limits}
    {items : List (Uuid × o.Record)} {plans : List Plan}
    (h : o.capability.compile ctx limits items = .ok plans) : Partitions items plans := by
  simp only [Offer.all, List.mem_cons, List.not_mem_nil, or_false] at ho
  rcases ho with rfl | rfl
  · exact ListenerPlan.compile_ok h
  · exact BackendPlan.compile_ok h

end BalancerImport
