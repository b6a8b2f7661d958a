import BalancerImport.Proofs.Plan.Compilation
import BalancerImport.Proofs.Plan.Numbering

/-!
# Which task works on which item

A plan tells twice which of its tasks works on an item: in its actions of items, and in the
parameters of its tasks. Both are built from the same batches, and the ids of tasks tell the batches
apart, so they never disagree.

* `Plan.itemsOf`: the items that an action works on; `Plan.Made`: a plan and its batches;
* `Divides`, `Partitions.divides`: each item has one action, in the plan of its balancer;
* `Plan.Assigns`, `Plan.Made.assigns`: the parameters of a task name the items of its action;
  `Plan.Made.exists_task`: every action is that of a task;
* `ListenerPlan.Tells`, `BackendPlan.Tells`: what the parameters of tasks say about their items;
* **`compile_tells`**: for both kinds of record, plans divide the items, and their tasks say so.
-/

namespace BalancerImport

/-- The items that an action of a plan works on, in order. -/
def Plan.itemsOf (p : Plan) (action : String) : List Uuid :=
  (p.itemActions.filter fun a => a.2 = action).map Prod.fst

section

variable {R : Type}

/-! ## Items and plans -/

/-- Plans that divide items: there is one plan for each balancer, in the order in which the
balancers first appear. It locks its balancer, and has one action for each item of its balancer and
none for anything else. -/
structure Divides [Importable R] (items : List (Uuid × R)) (plans : List Plan) : Prop where
  balancers : plans.map Plan.lbId = (items.filterMap fun item => Importable.lbId item.2).eraseDups
  keys : ∀ p ∈ plans, p.key = .balancer p.lbId
  resolved : ∀ item ∈ items, ∃ p ∈ plans, Importable.lbId item.2 = some p.lbId
  once : ∀ p ∈ plans, ∀ item ∈ items, (p.itemActions.map Prod.fst).count item.1 =
    if Importable.lbId item.2 = some p.lbId then 1 else 0
  only : ∀ p ∈ plans, ∀ a ∈ p.itemActions, ∃ item ∈ items, item.1 = a.1

theorem Partitions.divides [Importable R] {items : List (Uuid × R)} {plans : List Plan}
    (h : Partitions items plans) (hnodup : (items.map Prod.fst).Nodup) : Divides items plans := by
  constructor
  case balancers => exact h.balancers
  case keys => exact fun p hp => (h.carries p hp).key
  case resolved => exact fun item hi => h.exists_plan hi
  case once =>
    intro p hp item hi
    rw [(h.carries p hp).map_fst_perm.count_eq]
    have hown := hnodup.sublist
      ((List.filter_sublist (p := fun item => Importable.lbId item.2 = some p.lbId)).map Prod.fst)
    split
    · rename_i hlb
      refine List.count_eq_one_of_mem hown (List.mem_map_of_mem (List.mem_filter.mpr ⟨hi, ?_⟩))
      exact decide_eq_true hlb
    · rename_i hlb
      refine List.count_eq_zero.mpr fun hm => hlb ?_
      obtain ⟨other, ho, hid⟩ := List.mem_map.mp hm
      obtain ⟨ho, hother⟩ := List.mem_filter.mp ho
      rw [← List.inj_on_of_nodup_map hnodup ho hi hid]
      exact of_decide_eq_true hother
  case only =>
    intro p hp a ha
    obtain ⟨item, hi, hid⟩ := (h.carries p hp).item_of_action ha
    exact ⟨item, (List.mem_filter.mp hi).1, hid⟩

/-- The plan of a balancer is made of the items of its balancer. -/
theorem plan_of_mem {γ : Type} {keyed : List (String × γ)} {plans : List Plan} {p : Plan}
    {plan : String × List γ → Except PlanError Plan}
    (hplans : List.Forall₂ (fun group p => plan group = .ok p) (groupByKey keyed) plans)
    (hlb : ∀ group p, plan group = .ok p → p.lbId = group.1) (hp : p ∈ plans) :
    plan (p.lbId, itemsOfKey p.lbId keyed) = .ok p := by
  obtain ⟨group, hg, h⟩ := exists_mem_of_forall₂ hplans hp
  rw [groupByKey_eq] at hg
  obtain ⟨lbId, -, rfl⟩ := List.mem_map.mp hg
  rwa [hlb _ _ h]

/-! ## Items and tasks -/

theorem itemActionsOf_cons (b : Task × List (Uuid × R)) (batches : List (Task × List (Uuid × R))) :
    itemActionsOf (b :: batches) = (b.2.map fun item => (item.1, b.1.id)) ++ itemActionsOf batches :=
  List.flatMap_cons

/-- Where ids tell tasks apart, the items of an action are those of the batch of its task. -/
theorem filter_itemActionsOf : ∀ {batches : List (Task × List (Uuid × R))}
    {b : Task × List (Uuid × R)}, (batches.map fun b => b.1.id).Nodup → b ∈ batches →
    (itemActionsOf batches).filter (fun a => a.2 = b.1.id) = b.2.map fun item => (item.1, b.1.id)
  | [], _, _, hb => by simp at hb
  | first :: rest, b, hnodup, hb => by
    rw [List.map_cons, List.nodup_cons] at hnodup
    rw [itemActionsOf_cons, List.filter_append]
    have hfirst : ∀ b ∈ rest, first.1.id ≠ b.1.id := fun b hb he =>
      hnodup.1 (he ▸ List.mem_map_of_mem hb)
    rcases List.mem_cons.mp hb with rfl | hb
    · have hrest : (itemActionsOf rest).filter (fun a => a.2 = b.1.id) = [] := by
        rw [List.filter_eq_nil_iff]
        intro a ha hid
        obtain ⟨other, ho, ha⟩ := List.mem_flatMap.mp ha
        obtain ⟨item, -, rfl⟩ := List.mem_map.mp ha
        exact hfirst other ho (of_decide_eq_true hid).symm
      rw [hrest, List.append_nil, List.filter_eq_self]
      intro a ha
      obtain ⟨item, -, rfl⟩ := List.mem_map.mp ha
      exact decide_eq_true rfl
    · have hnone : (first.2.map fun item => (item.1, first.1.id)).filter
          (fun a => a.2 = b.1.id) = [] := by
        rw [List.filter_eq_nil_iff]
        intro a ha hid
        obtain ⟨item, -, rfl⟩ := List.mem_map.mp ha
        exact hfirst b hb (of_decide_eq_true hid)
      rw [hnone, List.nil_append, filter_itemActionsOf hnodup.2 hb]

/-- A plan is made of batches of items: each has a task of its own, and the actions of items are
those of the tasks. -/
structure Plan.Made (p : Plan) (items : List (Uuid × R)) (batches : List (Task × List (Uuid × R))) :
    Prop where
  tasks : p.tasks = batches.map Prod.fst
  actions : p.itemActions = itemActionsOf batches
  nodup : (batches.map fun b => b.1.id).Nodup
  mem : ∀ b ∈ batches, ∀ item ∈ b.2, item ∈ items

/-- Every action of an item is that of a task. -/
theorem Plan.Made.exists_task {p : Plan} {items : List (Uuid × R)}
    {batches : List (Task × List (Uuid × R))} (h : p.Made items batches) :
    ∀ a ∈ p.itemActions, ∃ t ∈ p.tasks, t.id = a.2 := by
  intro a ha
  rw [h.actions] at ha
  obtain ⟨b, hb, ha⟩ := List.mem_flatMap.mp ha
  obtain ⟨item, -, rfl⟩ := List.mem_map.mp ha
  refine ⟨b.1, ?_, rfl⟩
  rw [h.tasks]
  exact List.mem_map_of_mem hb

/-- A task of a plan has a batch of items, whose records it is about: the ids of the batch are
those that the plan maps to the action of the task, and those that the parameters of the task name,
in this order. -/
structure Plan.Assigns [Importable R] (p : Plan) (items : List (Uuid × R)) (t : Task)
    (batch : List (Uuid × R)) : Prop where
  mem : ∀ item ∈ batch, item ∈ items ∧ Importable.lbId item.2 = some p.lbId
  ids : batch.map Prod.fst = p.itemsOf t.id
  params : t.params.member? itemsField = some (.strs ((p.itemsOf t.id).map Uuid.text))

/-- The task of a batch has the items of the batch. -/
theorem Plan.Made.assigns [Importable R] {p : Plan} {items : List (Uuid × R)}
    {batches : List (Task × List (Uuid × R))}
    (h : p.Made (items.filter fun item => Importable.lbId item.2 = some p.lbId) batches)
    {b : Task × List (Uuid × R)} (hb : b ∈ batches)
    (hparams : b.1.params.member? itemsField = some (itemIds b.2)) : p.Assigns items b.1 b.2 := by
  have hids : p.itemsOf b.1.id = b.2.map Prod.fst := by
    rw [Plan.itemsOf, h.actions, filter_itemActionsOf h.nodup hb, List.map_map]
    rfl
  refine ⟨fun item hi => ?_, hids.symm, ?_⟩
  · obtain ⟨hmem, hlb⟩ := List.mem_filter.mp (h.mem b hb item hi)
    exact ⟨hmem, of_decide_eq_true hlb⟩
  · rw [hparams, hids, List.map_map]
    rfl

end

/-! ## Listeners -/

namespace ListenerPlan

variable {ctx : Context} {limits : Limits} {items : List (Uuid × ListenerRecord)}
  {plans : List Plan} {p : Plan}

/-- Each task of a plan is about a batch of items, and lists a listener for each of their
records. There are no actions but those of tasks. -/
structure Tells (ctx : Context) (items : List (Uuid × ListenerRecord)) (p : Plan) : Prop where
  tasks : ∀ t ∈ p.tasks, ∃ batch, p.Assigns items t batch ∧
    t.params.member? "listeners" = some (.arr (batch.map fun item => entry ctx p.lbId item.2))
  actions : ∀ a ∈ p.itemActions, ∃ t ∈ p.tasks, t.id = a.2

theorem plan_made {lbId : String} (h : plan ctx limits (lbId, items) = .ok p) :
    ∃ batches, p.Made items batches ∧ ∀ b ∈ batches, b.1.params = params ctx p.lbId b.2 := by
  simp only [plan] at h
  obtain ⟨batches, hb, rfl⟩ := map_ok h
  obtain ⟨hitems, hparams⟩ := chainBatches_ok hb
  obtain ⟨hlinks, -⟩ := chainBatches_draws (Prod.ext hb rfl)
  refine ⟨batches, ⟨rfl, rfl, ?_, ?_⟩, fun b hm => (Except.ok.inj (hparams b hm)).symm⟩
  · have hids := ActionIds.nodup_draws batches.length .standard
    rwa [← hlinks, List.map_map] at hids
  · intro b hm item hi
    rw [← hitems]
    exact List.mem_flatMap.mpr ⟨b, hm, hi⟩

/-- The plan of a balancer is made of its items, in order. -/
theorem plan_of_compile (h : compile ctx limits items = .ok plans) (hp : p ∈ plans) :
    plan ctx limits (p.lbId, items.filter fun item => Importable.lbId item.2 = some p.lbId) =
      .ok p := by
  unfold compile at h
  split at h
  · simp at h
  · rename_i keyedItems hk
    obtain ⟨hitems, hlb⟩ := keyed_of_forall₂ id (mapUntilError_ok hk) fun _ _ => keyed_ok
    have hplan := plan_of_mem (mapUntilError_ok h) (fun _ _ hg => (plan_ok hg).1) hp
    have hown : itemsOfKey p.lbId keyedItems =
        items.filter fun item => Importable.lbId item.2 = some p.lbId := by
      have hmap := map_itemsOfKey hlb p.lbId
      rwa [List.map_id, hitems] at hmap
    rwa [hown] at hplan

theorem compile_listed (h : compile ctx limits items = .ok plans) (hp : p ∈ plans) :
    Tells ctx items p := by
  obtain ⟨batches, hmade, hparams⟩ := plan_made (plan_of_compile h hp)
  refine ⟨fun t ht => ?_, hmade.exists_task⟩
  rw [hmade.tasks] at ht
  obtain ⟨b, hb, rfl⟩ := List.mem_map.mp ht
  refine ⟨b.2, hmade.assigns hb ?_, ?_⟩
  · rw [hparams b hb]
    rfl
  · rw [hparams b hb]
    rfl

end ListenerPlan

/-! ## Backends -/

namespace BackendPlan

variable {ctx : Context} {limits : Limits} {items : List (Uuid × BackendRecord)}
  {plans : List Plan} {p : Plan}

/-- The parameter of a task that names its target group. -/
def groupField : String := "target_group_id"

/-- The target group that the parameters of a task name. -/
def groupOf? (t : Task) : Option String := (t.params.member? groupField).bind Json.str?

/-- Each task of a plan is about a batch of items of one target group, and lists a backend for each
of their records. There are no actions but those of tasks. The tasks of a group stand next to each
other, and the plan names the groups of its balancer in the order in which they first appear. -/
structure Tells (ctx : Context) (items : List (Uuid × BackendRecord)) (p : Plan) : Prop where
  tasks : ∀ t ∈ p.tasks, ∃ group batch, p.Assigns items t batch ∧
    t.params.member? groupField = some (.str group) ∧
    (∀ item ∈ batch, item.2.targetGroup = some group) ∧
    t.params.member? "rs_list" = some (.arr (batch.map fun item => entry ctx group item.2))
  actions : ∀ a ∈ p.itemActions, ∃ t ∈ p.tasks, t.id = a.2
  contiguous : Contiguous (p.tasks.filterMap groupOf?)
  groups : p.subIds = (p.tasks.filterMap groupOf?).eraseDups
  first : p.subIds = ((items.filter fun item => Importable.lbId item.2 = some p.lbId).filterMap
    fun item => item.2.targetGroup).eraseDups

theorem keyed_group {item : Uuid × BackendRecord} {k : String × (String × (Uuid × BackendRecord))}
    (h : keyed item = .ok k) : k.2.2.2.targetGroup = some k.2.1 := by
  unfold keyed at h
  split at h
  · simp at h
  · rename_i group hgroup
    obtain ⟨lbId, -, rfl⟩ := map_ok h
    exact hgroup

variable {lbId : String} {groups : List (String × List (Uuid × BackendRecord))}
  {batches : List (Task × List (Uuid × BackendRecord))}

theorem chainGroups_draws {ids : ActionIds}
    (h : chainGroups ctx limits lbId ids groups = .ok batches) :
    (batches.map fun b => b.1.link) = ids.draws batches.length := by
  rw [chainGroups_eq] at h
  obtain ⟨runs, hruns, rfl⟩ := map_ok h
  exact (chainInTurn_ok hruns).2

/-- The groups of tasks come in runs. -/
theorem groupOf_runs {runs : List (List (Task × List (Uuid × BackendRecord)))}
    (h : List.Forall₂ (fun group run => run.flatMap Prod.snd = group.2 ∧
      ∀ b ∈ run, b.1.params = params ctx lbId group.1 b.2) groups runs)
    (hne : ∀ group ∈ groups, group.2 ≠ []) :
    ∃ counts : List (String × Nat), counts.map Prod.fst = groups.map Prod.fst ∧
      (∀ r ∈ counts, 0 < r.2) ∧
      (runs.flatten.map Prod.fst).filterMap groupOf? = ofRuns counts := by
  induction h with
  | nil => exact ⟨[], rfl, by simp, rfl⟩
  | @cons group run groups runs hrun _ ih =>
    obtain ⟨hitems, hparams⟩ := hrun
    obtain ⟨counts, hkeys, hpos, hgroups⟩ := ih fun g hg => hne g (List.mem_cons_of_mem _ hg)
    refine ⟨(group.1, run.length) :: counts, by rw [List.map_cons, hkeys, List.map_cons], ?_, ?_⟩
    · intro r hr
      rcases List.mem_cons.mp hr with rfl | hr
      · refine List.length_pos_iff.mpr ?_
        rintro rfl
        exact hne group List.mem_cons_self hitems.symm
      · exact hpos r hr
    · have hrun : (run.map Prod.fst).filterMap groupOf? = List.replicate run.length group.1 := by
        rw [List.filterMap_map, List.eq_replicate_iff]
        have hsome : ∀ b ∈ run, (groupOf? ∘ Prod.fst) b = some group.1 := fun b hb => by
          rw [Function.comp_apply, groupOf?, hparams b hb]
          rfl
        have hmap := List.filterMap_congr (g := some ∘ fun _ => group.1) hsome
        rw [hmap, List.filterMap_eq_map]
        simp
      rw [List.flatten_cons, List.map_append, List.filterMap_append, hrun, hgroups]
      rfl

theorem plan_made {keyedItems : List (String × (Uuid × BackendRecord))}
    (h : plan ctx limits (lbId, keyedItems) = .ok p) :
    ∃ runs, p.Made (keyedItems.map Prod.snd) runs.flatten ∧
      p.subIds = (groupByKey keyedItems).map Prod.fst ∧
      List.Forall₂ (fun group run => run.flatMap Prod.snd = group.2 ∧
        ∀ b ∈ run, b.1.params = params ctx lbId group.1 b.2) (groupByKey keyedItems) runs := by
  simp only [plan] at h
  obtain ⟨batches, hb, rfl⟩ := map_ok h
  have hlinks := chainGroups_draws hb
  have hitems := (chainGroups_ok hb).1
  obtain ⟨runs, rfl, hruns⟩ := chainGroups_runs hb
  refine ⟨runs, ⟨rfl, rfl, ?_, ?_⟩, rfl, hruns⟩
  · have hids := ActionIds.nodup_draws runs.flatten.length .standard
    rwa [← hlinks, List.map_map] at hids
  · intro b hm item hi
    have hmem : item ∈ (groupByKey keyedItems).flatMap Prod.snd :=
      hitems ▸ List.mem_flatMap.mpr ⟨b, hm, hi⟩
    exact (groupByKey_perm keyedItems).subset hmem

/-- What the plan of keyed items tells, if the keys are the target groups of their records. -/
theorem tells_of_plan {keyedItems : List (String × (Uuid × BackendRecord))}
    (hkeys : ∀ k ∈ keyedItems, k.2.2.targetGroup = some k.1)
    (hown : keyedItems.map Prod.snd =
      items.filter fun item => Importable.lbId item.2 = some p.lbId)
    (h : plan ctx limits (p.lbId, keyedItems) = .ok p) : Tells ctx items p := by
  obtain ⟨runs, hmade, hsub, hruns⟩ := plan_made h
  rw [hown] at hmade
  have hnodup : ((groupByKey keyedItems).map Prod.fst).Nodup := by
    rw [keys_groupByKey]
    exact nodup_eraseDups _
  obtain ⟨counts, hcounts, hpos, hfound⟩ := groupOf_runs hruns fun g hg => (of_mem_groupByKey hg).1
  rw [← hcounts] at hnodup
  constructor
  case tasks =>
    intro t ht
    rw [hmade.tasks] at ht
    obtain ⟨b, hb, rfl⟩ := List.mem_map.mp ht
    obtain ⟨run, hrun, hbrun⟩ := List.mem_flatten.mp hb
    obtain ⟨group, hg, hitems, hparams⟩ := exists_mem_of_forall₂ hruns hrun
    refine ⟨group.1, b.2, hmade.assigns hb ?_, ?_, fun item hi => ?_, ?_⟩
    · rw [hparams b hbrun]
      rfl
    · rw [hparams b hbrun]
      rfl
    · refine hkeys (group.1, item) ((of_mem_groupByKey hg).2 item ?_)
      rw [← hitems]
      exact List.mem_flatMap.mpr ⟨b, hbrun, hi⟩
    · rw [hparams b hbrun]
      rfl
  case actions => exact hmade.exists_task
  case contiguous =>
    rw [hmade.tasks, hfound]
    exact contiguous_of_runs hnodup
  case groups => rw [hmade.tasks, hfound, eraseDups_of_runs hnodup hpos, hcounts, hsub]
  case first =>
    rw [hsub, keys_groupByKey, ← hown, List.filterMap_map]
    congr 1
    rw [← List.filterMap_eq_map]
    exact (List.filterMap_congr hkeys).symm

/-- The plan of a balancer is made of its items, in order, each with its target group. -/
theorem plan_of_compile (h : compile ctx limits items = .ok plans) (hp : p ∈ plans) :
    ∃ keyedItems, plan ctx limits (p.lbId, keyedItems) = .ok p ∧
      (keyedItems.map Prod.snd = items.filter fun item => Importable.lbId item.2 = some p.lbId) ∧
      ∀ k ∈ keyedItems, k.2.2.targetGroup = some k.1 := by
  unfold compile at h
  split at h
  · simp at h
  · rename_i keyedItems hk
    obtain ⟨hitems, hlb⟩ := keyed_of_forall₂ Prod.snd (mapUntilError_ok hk) fun _ _ => keyed_ok
    have hplan := plan_of_mem (mapUntilError_ok h) (fun _ _ hg => (plan_ok hg).1) hp
    have hown := map_itemsOfKey hlb p.lbId
    rw [hitems] at hown
    refine ⟨_, hplan, hown, fun k hkm => ?_⟩
    obtain ⟨other, ho, rfl⟩ := List.mem_map.mp hkm
    obtain ⟨item, -, he⟩ := exists_mem_of_forall₂ (mapUntilError_ok hk) (List.mem_filter.mp ho).1
    exact keyed_group he

theorem compile_listed (h : compile ctx limits items = .ok plans) (hp : p ∈ plans) :
    Tells ctx items p := by
  obtain ⟨keyedItems, hplan, hown, hkeys⟩ := plan_of_compile h hp
  exact tells_of_plan hkeys hown hplan

end BackendPlan

/-! ## Both kinds of record -/

/-- **Compiling divides items with distinct ids among plans, and the tasks of the plans tell the
same about the items as their actions.** -/
theorem compile_tells :
    (∀ {ctx : Context} {limits : Limits} {items : List (Uuid × ListenerRecord)}
      {plans : List Plan}, (items.map Prod.fst).Nodup →
      ListenerPlan.compile ctx limits items = .ok plans →
      Divides items plans ∧ ∀ p ∈ plans, ListenerPlan.Tells ctx items p) ∧
    (∀ {ctx : Context} {limits : Limits} {items : List (Uuid × BackendRecord)}
      {plans : List Plan}, (items.map Prod.fst).Nodup →
      BackendPlan.compile ctx limits items = .ok plans →
      Divides items plans ∧ ∀ p ∈ plans, BackendPlan.Tells ctx items p) := by
  constructor
  · intro ctx limits items plans hnodup h
    exact ⟨(ListenerPlan.compile_ok h).divides hnodup,
      fun p hp => ListenerPlan.compile_listed h hp⟩
  · intro ctx limits items plans hnodup h
    exact ⟨(BackendPlan.compile_ok h).divides hnodup,
      fun p hp => BackendPlan.compile_listed h hp⟩

/-- The ids of the tasks of a plan, each with the items that its parameters name. -/
def Plan.namedItems (p : Plan) : List (String × Option (List String)) :=
  p.tasks.map fun t => (t.id, (t.params.member? itemsField).bind Json.strs?)

/-- A listener of a balancer. -/
def ListenerPlan.sampleItem (id : Nat) (lbId : String) : Uuid × ListenerRecord :=
  (⟨id⟩, { ListenerRecord.blank with lbId := some lbId })

/-- Listeners of two balancers, in turn. -/
def ListenerPlan.sampleItems : List (Uuid × ListenerRecord) :=
  [sampleItem 1 "a", sampleItem 2 "b", sampleItem 3 "a", sampleItem 4 "a"]

/-- A backend of a balancer and a target group. -/
def BackendPlan.sampleItem (id : Nat) (lbId group : String) : Uuid × BackendRecord :=
  (⟨id⟩, { BackendRecord.blank with lbId := some lbId, targetGroup := some group })

/-- Backends of two balancers and of two target groups, in turn. -/
def BackendPlan.sampleItems : List (Uuid × BackendRecord) :=
  [sampleItem 1 "a" "g", sampleItem 2 "b" "g", sampleItem 3 "a" "h", sampleItem 4 "a" "g",
    sampleItem 5 "a" "g"]

/-- Records share a task although others stand between them, and a group has as many tasks as it
needs. -/
theorem compile_tells_inTurn :
    let ctx : Context := { vendor := .tcloud, business := 0, account := "", regions := [] }
    let limits : Limits := { Limits.standard with listeners := 2, backends := 2 }
    let named := fun ids : List Uuid => some (ids.map Uuid.text)
    (∃ plans, ListenerPlan.compile ctx limits ListenerPlan.sampleItems = .ok plans ∧
      plans.map Plan.itemActions =
        [[(⟨1⟩, "1"), (⟨3⟩, "1"), (⟨4⟩, "2")], [(⟨2⟩, "1")]] ∧
      plans.map Plan.namedItems =
        [[("1", named [⟨1⟩, ⟨3⟩]), ("2", named [⟨4⟩])], [("1", named [⟨2⟩])]] ∧
      Divides ListenerPlan.sampleItems plans ∧
      ∀ p ∈ plans, ListenerPlan.Tells ctx ListenerPlan.sampleItems p) ∧
    (∃ plans, BackendPlan.compile ctx limits BackendPlan.sampleItems = .ok plans ∧
      plans.map Plan.itemActions =
        [[(⟨1⟩, "1"), (⟨4⟩, "1"), (⟨5⟩, "2"), (⟨3⟩, "3")], [(⟨2⟩, "1")]] ∧
      plans.map Plan.namedItems =
        [[("1", named [⟨1⟩, ⟨4⟩]), ("2", named [⟨5⟩]), ("3", named [⟨3⟩])],
          [("1", named [⟨2⟩])]] ∧
      Divides BackendPlan.sampleItems plans ∧
      ∀ p ∈ plans, BackendPlan.Tells ctx BackendPlan.sampleItems p) := by
  intro ctx limits named
  constructor
  · have hactions : (ListenerPlan.compile ctx limits ListenerPlan.sampleItems).map
        (List.map Plan.itemActions) =
        .ok [[(⟨1⟩, "1"), (⟨3⟩, "1"), (⟨4⟩, "2")], [(⟨2⟩, "1")]] := by decide +kernel
    have hnamed : (ListenerPlan.compile ctx limits ListenerPlan.sampleItems).map
        (List.map Plan.namedItems) =
        .ok [[("1", named [⟨1⟩, ⟨3⟩]), ("2", named [⟨4⟩])], [("1", named [⟨2⟩])]] := by
      decide +kernel
    obtain ⟨plans, hplans, hmap⟩ := map_ok hactions
    rw [hplans] at hnamed
    obtain ⟨hdivides, htells⟩ := compile_tells.1 (by decide) hplans
    exact ⟨plans, hplans, hmap, Except.ok.inj hnamed, hdivides, htells⟩
  · have hactions : (BackendPlan.compile ctx limits BackendPlan.sampleItems).map
        (List.map Plan.itemActions) =
        .ok [[(⟨1⟩, "1"), (⟨4⟩, "1"), (⟨5⟩, "2"), (⟨3⟩, "3")], [(⟨2⟩, "1")]] := by decide +kernel
    have hnamed : (BackendPlan.compile ctx limits BackendPlan.sampleItems).map
        (List.map Plan.namedItems) =
        .ok [[("1", named [⟨1⟩, ⟨4⟩]), ("2", named [⟨5⟩]), ("3", named [⟨3⟩])],
          [("1", named [⟨2⟩])]] := by
      decide +kernel
    obtain ⟨plans, hplans, hmap⟩ := map_ok hactions
    rw [hplans] at hnamed
    obtain ⟨hdivides, htells⟩ := compile_tells.2 (by decide) hplans
    exact ⟨plans, hplans, hmap, Except.ok.inj hnamed, hdivides, htells⟩

end BalancerImport
