import BalancerImport.Proofs.Plan.Assignment

/-!
# What plans ask for

The parameters of tasks list one entry for each item of their batch. All tasks of a plan together
list the items of its balancer in order, and the tasks of a target group list the items of the group.

* `Task.listed`: the entries that a task lists; `flatMap_listed`: those of tasks made from batches;
* **`ListenerPlan.sent_eq`**: the listeners that a plan creates;
* **`BackendPlan.sentTo_eq`**: the backends that a plan binds to a target group.
-/

namespace BalancerImport

/-- The entries that the parameters of a task list under a name. -/
def Task.listed (field : String) (t : Task) : List Json :=
  ((t.params.member? field).bind Json.arr?).getD []

section

variable {α : Type}

/-- Tasks that list their batches list all items. -/
theorem flatMap_listed {field : String} {f : α → Json} {batches : List (Task × List α)}
    (h : ∀ b ∈ batches, b.1.listed field = b.2.map f) :
    (batches.map Prod.fst).flatMap (Task.listed field) = (batches.flatMap Prod.snd).map f := by
  rw [List.flatMap_map, List.map_flatMap]
  exact List.flatMap_congr h

/-- The items of a key are those of its group. -/
theorem flatMap_groupByKey (key : String) (items : List (String × α)) :
    ((groupByKey items).filter fun group => group.1 = key).flatMap Prod.snd =
      itemsOfKey key items := by
  have hgroups : (groupByKey items).filter (fun group => group.1 = key) =
      ((items.map Prod.fst).eraseDups.filter fun k => k = key).map
        fun k => (k, itemsOfKey k items) := by
    rw [groupByKey_eq, List.filter_map]
    rfl
  rw [hgroups, List.filter_eq, (nodup_eraseDups _).count]
  by_cases hkey : key ∈ items.map Prod.fst
  · simp [hkey]
  · have hnone : itemsOfKey key items = [] := by
      rw [itemsOfKey, List.map_eq_nil_iff, List.filter_eq_nil_iff]
      intro item hitem he
      exact hkey (List.mem_map.mpr ⟨item, hitem, of_decide_eq_true he⟩)
    simp [hkey, hnone]

end

/-! ## Listeners -/

namespace ListenerPlan

variable {ctx : Context} {limits : Limits} {items : List (Uuid × ListenerRecord)}
  {plans : List Plan} {p : Plan}

/-- The listeners that the tasks of a plan create. -/
def sent (p : Plan) : List Json := p.tasks.flatMap (Task.listed "listeners")

/-- **A plan creates the listeners of its balancer**, in the order of their items. -/
theorem sent_eq (h : compile ctx limits items = .ok plans) (hp : p ∈ plans) :
    sent p = (items.filter fun item => Importable.lbId item.2 = some p.lbId).map
      fun item => entry ctx p.lbId item.2 := by
  have hplan := plan_of_compile h hp
  generalize items.filter (fun item => Importable.lbId item.2 = some p.lbId) = own at hplan ⊢
  generalize p.lbId = lbId at hplan ⊢
  simp only [plan] at hplan
  obtain ⟨batches, hb, rfl⟩ := map_ok hplan
  obtain ⟨hitems, hparams⟩ := chainBatches_ok hb
  have hlisted : ∀ b ∈ batches,
      b.1.listed "listeners" = b.2.map fun item => entry ctx lbId item.2 := fun b hb => by
    rw [Task.listed, ← Except.ok.inj (hparams b hb)]
    rfl
  rw [sent, flatMap_listed hlisted, hitems]

end ListenerPlan

/-! ## Backends -/

namespace BackendPlan

variable {ctx : Context} {limits : Limits} {items : List (Uuid × BackendRecord)}
  {plans : List Plan} {p : Plan}

/-- The backends that the tasks of a plan bind to a target group. -/
def sentTo (group : String) (p : Plan) : List Json :=
  (p.tasks.filter fun t => groupOf? t = some group).flatMap (Task.listed "rs_list")

/-- The tasks of a group are those of its run. -/
theorem sentTo_runs {lbId : String} (key : String)
    {groups : List (String × List (Uuid × BackendRecord))}
    {runs : List (List (Task × List (Uuid × BackendRecord)))}
    (h : List.Forall₂ (fun group run => run.flatMap Prod.snd = group.2 ∧
      ∀ b ∈ run, b.1.params = params ctx lbId group.1 b.2) groups runs) :
    ((runs.flatten.map Prod.fst).filter fun t => groupOf? t = some key).flatMap
        (Task.listed "rs_list") =
      ((groups.filter fun group => group.1 = key).flatMap Prod.snd).map
        fun item => entry ctx key item.2 := by
  induction h with
  | nil => rfl
  | @cons group run groups runs hrun _ ih =>
    obtain ⟨hitems, hparams⟩ := hrun
    have hgroup : ∀ t ∈ run.map Prod.fst, groupOf? t = some group.1 := by
      refine List.forall_mem_map.mpr fun b hb => ?_
      rw [groupOf?, hparams b hb]
      rfl
    rw [List.flatten_cons, List.map_append, List.filter_append, List.flatMap_append, ih,
      List.filter_cons]
    by_cases hkey : group.1 = key
    · have hall : (run.map Prod.fst).filter (fun t => groupOf? t = some key) = run.map Prod.fst :=
        List.filter_eq_self.mpr fun t ht => decide_eq_true ((hgroup t ht).trans (congrArg some hkey))
      have hlisted : ∀ b ∈ run,
          b.1.listed "rs_list" = b.2.map fun item => entry ctx key item.2 := fun b hb => by
        rw [Task.listed, hparams b hb, hkey]
        rfl
      rw [hall, flatMap_listed hlisted, hitems, if_pos (decide_eq_true hkey), List.flatMap_cons,
        List.map_append]
    · have hnone : (run.map Prod.fst).filter (fun t => groupOf? t = some key) = [] := by
        refine List.filter_eq_nil_iff.mpr fun t ht he => hkey ?_
        exact Option.some.inj ((hgroup t ht).symm.trans (of_decide_eq_true he))
      rw [hnone, List.flatMap_nil, List.nil_append, if_neg (by simpa using hkey)]

/-- **A plan binds to a target group the backends that were resolved to it**, in the order of their
items. -/
theorem sentTo_eq (h : compile ctx limits items = .ok plans) (hp : p ∈ plans) (group : String) :
    sentTo group p = (items.filter fun item =>
      Importable.lbId item.2 = some p.lbId ∧ item.2.targetGroup = some group).map
        fun item => entry ctx group item.2 := by
  obtain ⟨keyedItems, hplan, hown, hkeys⟩ := plan_of_compile h hp
  obtain ⟨runs, hmade, -, hruns⟩ := plan_made hplan
  rw [sentTo, hmade.tasks, sentTo_runs group hruns, flatMap_groupByKey]
  have hitems : itemsOfKey group keyedItems =
      (keyedItems.map Prod.snd).filter fun item => item.2.targetGroup = some group := by
    rw [itemsOfKey, List.filter_map]
    refine congrArg (List.map Prod.snd) (List.filter_congr fun k hk => ?_)
    simp [hkeys k hk]
  rw [hitems, hown, List.filter_filter]
  refine congrArg (List.map _) (List.filter_congr fun item _ => ?_)
  rw [← Bool.decide_and, decide_eq_decide, and_comm]

end BackendPlan

end BalancerImport
