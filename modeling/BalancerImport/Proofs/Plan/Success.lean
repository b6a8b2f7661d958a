import BalancerImport.Import.Settings
import BalancerImport.Proofs.Check.Backends
import BalancerImport.Proofs.Check.Readiness
import BalancerImport.Proofs.Flow.Lines
import BalancerImport.Proofs.Flow.Requests
import BalancerImport.Proofs.Plan.Assignment

/-!
# Compilation that cannot fail

What is wrong with the structure of an import is found while it is validated. The records that can
be executed are compiled whatever they are, and the tasks of their plans are what the engine asks
for.

* `Linear`: tasks that are numbered, each waiting for the one before it; `checkChain_of_linear`: the
  engine takes them for a chain;
* `mapUntilError_total`, `chainBatches_total`, `BackendPlan.chainGroups_total`: steps that answer;
* `Plan.Numbered`: what the tasks of all plans are like; `ListenerPlan.compile_total`,
  `BackendPlan.compile_total`: resolved records have such plans;
* **`compile_validated`**: validated records have plans, which the engine refuses only if it is told
  to.
-/

namespace BalancerImport

/-! ## Tasks in a line -/

/-- Tasks in a line: they are numbered from one on, and each waits for the one before it. -/
structure Linear (ts : List Task) : Prop where
  ne_nil : ts ≠ []
  link : ∀ i t, ts[i]? = some t →
    t.id = toString (i + 1) ∧ t.dependsOn = if i = 0 then none else some (toString i)

theorem linear_of_draws {ts : List Task} (hne : ts ≠ [])
    (h : ts.map Task.link = ActionIds.standard.draws ts.length) : Linear ts := by
  refine ⟨hne, fun i t ht => ?_⟩
  obtain ⟨hid, hdepends⟩ := link_of_draws h ht
  refine ⟨by rw [hid, Nat.add_comm], hdepends.trans ?_⟩
  cases i with
  | zero => rfl
  | succ i => rw [Nat.add_sub_cancel, Nat.add_comm 1 i]

theorem Linear.isLine {ts : List Task} (h : Linear ts) : IsLine ts := by
  refine isLine_of_links (f := fun i => toString (i + 1)) fun i t ht => ?_
  obtain ⟨hid, hdepends⟩ := h.link i t ht
  refine ⟨hid, hdepends.trans ?_⟩
  split
  · rfl
  · rw [Nat.sub_add_cancel (Nat.pos_of_ne_zero ‹_›)]

theorem Linear.nodup {ts : List Task} (h : Linear ts) : (ts.map Task.id).Nodup := by
  have hids : ts.map Task.id = (List.range ts.length).map fun i => toString (i + 1) := by
    refine List.ext_getElem (by simp) fun i hi _ => ?_
    rw [List.length_map] at hi
    simpa using (h.link i ts[i] (List.getElem?_eq_getElem hi)).1
  rw [hids]
  exact List.nodup_range.map fun _ _ he => Nat.succ_injective (eq_of_toString_eq he)

/-- **Tasks in a line form a chain.** -/
theorem checkChain_of_linear {ts : List Task} (h : Linear ts)
    (hretry : ∀ t ∈ ts, t.retry.isValid = true) : checkChain ts = .ok () :=
  checkChain_eq_ok.mpr ⟨h.ne_nil, hretry, h.isLine.linked_of_nodup h.nodup⟩

/-- A chain is refused only if the engine is told to refuse it. -/
theorem Engine.submit_error_iff {name : String} {tasks : List Task}
    {shared : List (String × String)} (h : checkChain tasks = .ok ()) (e : Engine)
    (error : FlowError) : (e.submit name tasks shared).1 = .error error ↔
      error = .refused .flow ∧ e.submitBudget = some 0 := by
  unfold submit
  rw [h]
  rcases hbudget : e.submitBudget with _ | _ | n
  · simp [spend]
  · simp [spend, eq_comm]
  · simp [spend]

/-! ## Steps that answer -/

section

variable {α β γ ε : Type}

theorem mapUntilError_total {f : α → Except ε β} : ∀ {as : List α},
    (∀ a ∈ as, ∃ b, f a = .ok b) → ∃ bs, mapUntilError f as = .ok bs
  | [], _ => ⟨[], rfl⟩
  | a :: as, h => by
    obtain ⟨⟨b, hb⟩, hrest⟩ := List.forall_mem_cons.mp h
    obtain ⟨bs, hbs⟩ := mapUntilError_total hrest
    exact ⟨b :: bs, by rw [mapUntilError, hb, hbs]; rfl⟩

/-- Items that all have a key have plans, if each group has one. -/
theorem plans_total {items : List α} {key : α → Except ε (String × γ)}
    {plan : String × List γ → Except ε Plan} (hkey : ∀ a ∈ items, ∃ k, key a = .ok k)
    (hplan : ∀ group, ∃ p, plan group = .ok p) :
    ∃ keyed plans, mapUntilError key items = .ok keyed ∧
      mapUntilError plan (groupByKey keyed) = .ok plans := by
  obtain ⟨keyed, hkeyed⟩ := mapUntilError_total hkey
  obtain ⟨plans, hplans⟩ := mapUntilError_total fun group (_ : group ∈ groupByKey keyed) =>
    hplan group
  exact ⟨keyed, plans, hkeyed, hplans⟩

variable {action : String} {retry : RetryPolicy} {params : List α → Except PlanError Json}

/-- **Items can be batched if there is room in a batch.** -/
theorem chainBatches_total (action : String) (retry : RetryPolicy) {limit : Nat}
    (hlimit : limit ≠ 0) (hparams : ∀ batch, ∃ json, params batch = .ok json) (items : List α)
    (ids : ActionIds) :
    ∃ chain ids', chainBatches action limit retry params items ids = (.ok chain, ids') := by
  rcases h : chainBatches action limit retry params items ids with ⟨e | chain, ids'⟩
  · obtain ⟨_, batch, _, -, -, he⟩ := chainBatches_error hlimit (congrArg Prod.fst h)
    obtain ⟨json, hjson⟩ := hparams batch
    exact nomatch he.symm.trans hjson
  · exact ⟨chain, ids', rfl⟩

theorem chainBatches_retry {limit : Nat} {items : List α} {ids : ActionIds}
    {chain : List (Task × List α)}
    (h : (chainBatches action limit retry params items ids).1 = .ok chain) :
    ∀ b ∈ chain, b.1.retry = retry := fun b hb => ((chainBatches_cut h).2 b hb).retry

end

/-! ## Plans -/

/-- The tasks of a plan are numbered, and tried as often as the limits say. -/
structure Plan.Numbered (limits : Limits) (p : Plan) : Prop where
  links : p.tasks.map Task.link = ActionIds.standard.draws p.tasks.length
  retry : ∀ t ∈ p.tasks, t.retry = limits.retry

theorem Plan.Numbered.of_batches {α : Type} {limits : Limits} {p : Plan}
    {batches : List (Task × List α)} (htasks : p.tasks = batches.map Prod.fst)
    (hlinks : (batches.map fun b => b.1.link) = ActionIds.standard.draws batches.length)
    (hretry : ∀ b ∈ batches, b.1.retry = limits.retry) : p.Numbered limits := by
  constructor
  · rw [htasks, List.map_map, List.length_map]
    exact hlinks
  · rw [htasks]
    exact List.forall_mem_map.mpr hretry

theorem resolvedBalancer_total {R : Type} [Importable R] {r : R}
    (h : (Importable.lbId r).isSome = true) : ∃ lbId, resolvedBalancer r = .ok lbId := by
  obtain ⟨lbId, hlb⟩ := Option.isSome_iff_exists.mp h
  exact ⟨lbId, by rw [resolvedBalancer, hlb]⟩

section

variable {ctx : Context} {limits : Limits}

namespace ListenerPlan

theorem plan_total (ctx : Context) (hlimit : limits.listeners ≠ 0)
    (group : String × List (Uuid × ListenerRecord)) : ∃ p, plan ctx limits group = .ok p := by
  obtain ⟨lbId, items⟩ := group
  obtain ⟨batches, ids, hb⟩ := chainBatches_total action limits.retry hlimit
    (fun batch => ⟨params ctx lbId batch, rfl⟩) items .standard
  exact ⟨_, by simp only [plan, hb]; rfl⟩

theorem plan_numbered {group : String × List (Uuid × ListenerRecord)} {p : Plan}
    (h : plan ctx limits group = .ok p) : p.Numbered limits := by
  obtain ⟨lbId, items⟩ := group
  simp only [plan] at h
  obtain ⟨batches, hb, rfl⟩ := map_ok h
  exact .of_batches rfl (chainBatches_draws (Prod.ext hb rfl)).1 (chainBatches_retry hb)

/-- **Listeners whose balancers were resolved have plans.** -/
theorem compile_total (hlimit : limits.listeners ≠ 0) {items : List (Uuid × ListenerRecord)}
    (hready : ∀ item ∈ items, item.2.Ready) :
    ∃ plans, compile ctx limits items = .ok plans ∧ ∀ p ∈ plans, p.Numbered limits := by
  have hkey : ∀ item ∈ items, ∃ k, keyed item = .ok k := by
    intro item hi
    obtain ⟨lbId, hlb⟩ := resolvedBalancer_total (r := item.2) (hready item hi)
    exact ⟨_, by rw [keyed, hlb]; rfl⟩
  obtain ⟨keyedItems, plans, hkeyed, hplans⟩ := plans_total hkey (plan_total ctx hlimit)
  refine ⟨plans, by simp only [compile, hkeyed, hplans], fun p hp => ?_⟩
  obtain ⟨_, -, hplan⟩ := exists_mem_of_forall₂ (mapUntilError_ok hplans) hp
  exact plan_numbered hplan

end ListenerPlan

namespace BackendPlan

theorem chainGroups_total (ctx : Context) (hlimit : limits.backends ≠ 0) (lbId : String)
    (groups : List (String × List (Uuid × BackendRecord))) (ids : ActionIds) :
    ∃ batches, chainGroups ctx limits lbId ids groups = .ok batches := by
  obtain ⟨runs, hruns⟩ := chainInTurn_total action limits.retry hlimit
    (fun group batch => ⟨params ctx lbId group batch, rfl⟩) groups ids
  exact ⟨runs.flatten, by rw [chainGroups_eq, hruns]; rfl⟩

theorem chainGroups_retry {lbId : String} {groups : List (String × List (Uuid × BackendRecord))}
    {ids : ActionIds} {batches : List (Task × List (Uuid × BackendRecord))}
    (h : chainGroups ctx limits lbId ids groups = .ok batches) :
    ∀ b ∈ batches, b.1.retry = limits.retry := by
  rw [chainGroups_eq] at h
  obtain ⟨runs, hruns, rfl⟩ := map_ok h
  intro b hb
  obtain ⟨run, hrun, hb⟩ := List.mem_flatten.mp hb
  obtain ⟨_, -, -, htasks⟩ := exists_mem_of_forall₂ (chainInTurn_ok hruns).1 hrun
  exact (htasks b hb).retry

theorem plan_total (ctx : Context) (hlimit : limits.backends ≠ 0)
    (group : String × List (String × (Uuid × BackendRecord))) :
    ∃ p, plan ctx limits group = .ok p := by
  obtain ⟨lbId, items⟩ := group
  obtain ⟨batches, hb⟩ := chainGroups_total ctx hlimit lbId (groupByKey items) .standard
  exact ⟨_, by simp only [plan, hb]; rfl⟩

theorem plan_numbered {group : String × List (String × (Uuid × BackendRecord))} {p : Plan}
    (h : plan ctx limits group = .ok p) : p.Numbered limits := by
  obtain ⟨lbId, items⟩ := group
  simp only [plan] at h
  obtain ⟨batches, hb, rfl⟩ := map_ok h
  exact .of_batches rfl (chainGroups_draws hb) (chainGroups_retry hb)

/-- **Backends whose balancers and target groups were resolved have plans.** -/
theorem compile_total (hlimit : limits.backends ≠ 0) {items : List (Uuid × BackendRecord)}
    (hready : ∀ item ∈ items, item.2.Ready) :
    ∃ plans, compile ctx limits items = .ok plans ∧ ∀ p ∈ plans, p.Numbered limits := by
  have hkey : ∀ item ∈ items, ∃ k, keyed item = .ok k := by
    intro item hi
    obtain ⟨hlb, hgroup⟩ := hready item hi
    obtain ⟨group, hgroup⟩ := Option.isSome_iff_exists.mp hgroup
    obtain ⟨lbId, hlb⟩ := resolvedBalancer_total (r := item.2) hlb
    exact ⟨_, by simp only [keyed, hgroup, hlb]; rfl⟩
  obtain ⟨keyedItems, plans, hkeyed, hplans⟩ := plans_total hkey (plan_total ctx hlimit)
  refine ⟨plans, by simp only [compile, hkeyed, hplans], fun p hp => ?_⟩
  obtain ⟨_, -, hplan⟩ := exists_mem_of_forall₂ (mapUntilError_ok hplans) hp
  exact plan_numbered hplan

end BackendPlan

end

/-! ## From settings to plans -/

/-- The limits that variables set are such that an import works under them. -/
theorem Limits.of_ofVariables {vars : Variables} {limits : Limits}
    (h : Limits.ofVariables vars = .ok limits) :
    limits.listeners ≠ 0 ∧ limits.backends ≠ 0 ∧ limits.retry.isValid = true := by
  unfold ofVariables at h
  split at h
  · exact nomatch h
  · obtain ⟨_, hcheck, rfl⟩ := map_ok h
    unfold check at hcheck
    split at hcheck
    · exact nomatch hcheck
    · rename_i hroom
      split at hcheck
      · exact nomatch hcheck
      · rename_i hvalid
        rw [not_or] at hroom
        exact ⟨hroom.1, hroom.2, by simpa using hvalid⟩

variable {o : Offer} {vars : Variables} {limits : Limits} {ctx : Context} {cloud : Cloud}
  {rs validated : List o.Record}

/-- The records of a validation that can be executed are compiled to numbered tasks. -/
theorem Offer.compile_total (ho : o ∈ Offer.all) (hlimits : Limits.ofVariables vars = .ok limits)
    (h : (validateRecords o.capability.rules ctx cloud rs).1 = .ok validated)
    {items : List (Uuid × o.Record)}
    (hitems : items.map Prod.snd = validated.filter Importable.isExecutable) :
    ∃ plans, o.capability.compile ctx limits items = .ok plans ∧
      ∀ p ∈ plans, p.Numbered limits := by
  obtain ⟨hlisteners, hbackends, -⟩ := Limits.of_ofVariables hlimits
  have hmem : ∀ item ∈ items, item.2 ∈ validated ∧ Importable.isExecutable item.2 = true :=
    fun item hi => List.mem_filter.mp (hitems ▸ List.mem_map_of_mem hi)
  simp only [Offer.all, List.mem_cons, List.not_mem_nil, or_false] at ho
  rcases ho with rfl | rfl
  · have hready := ready_of_validateRecords ListenerRules.resolves h
    exact ListenerPlan.compile_total hlisteners
      fun item hi => hready item.2 (hmem item hi).1 (hmem item hi).2
  · have hready := ready_of_validateRecords BackendRules.resolves h
    exact BackendPlan.compile_total hbackends
      fun item hi => hready item.2 (hmem item hi).1 (hmem item hi).2

/-- **After validation nothing structural can fail.** Under the limits of an environment, the
records of a validation that can be executed have plans, whatever their items are. The tasks of a
plan are in a line and form a chain, so that the engine refuses it only if it is told to. -/
theorem compile_validated (ho : o ∈ Offer.all) (hlimits : Limits.ofVariables vars = .ok limits)
    (h : (validateRecords o.capability.rules ctx cloud rs).1 = .ok validated)
    {items : List (Uuid × o.Record)}
    (hitems : items.map Prod.snd = validated.filter Importable.isExecutable) :
    ∃ plans, o.capability.compile ctx limits items = .ok plans ∧
      ∀ p ∈ plans, Linear p.tasks ∧ checkChain p.tasks = .ok () ∧
        ∀ (e : Engine) (error : FlowError),
          (e.submit p.flowName p.tasks p.shared).1 = .error error ↔
            error = .refused .flow ∧ e.submitBudget = some 0 := by
  obtain ⟨plans, hplans, hnumbered⟩ := Offer.compile_total ho hlimits h hitems
  have hpartitions := Offer.compile_partitions ho hplans
  refine ⟨plans, hplans, fun p hp => ?_⟩
  have hne : p.tasks ≠ [] := by
    obtain ⟨item, hi, hlb⟩ := hpartitions.exists_item hp
    obtain ⟨t, ht, -⟩ := (hpartitions.carries p hp).action_of_item
      (List.mem_filter.mpr ⟨hi, decide_eq_true hlb⟩)
    exact List.ne_nil_of_mem ht
  have hlinear := linear_of_draws hne (hnumbered p hp).links
  have hchain := checkChain_of_linear hlinear fun t ht => by
    rw [(hnumbered p hp).retry t ht]
    exact (Limits.of_ofVariables hlimits).2.2
  exact ⟨hlinear, hchain, Engine.submit_error_iff hchain⟩

/-- Two backends that can be bound, and one whose instance is not there. -/
def bindableRecords : List BackendRecord :=
  [bindingRecord "CVM" "10.0.1.2" 10, bindingRecord "cvm" "10.0.1.3" 10,
    bindingRecord "ENI" "10.0.1.9" 10]

/-- Where batches have room for one backend, the two take two tasks. -/
theorem compile_validated_oneEach : ∃ limits validated plans,
    Limits.ofVariables (.ofEntries [("IMPORT_BIND_RS_BATCH_LIMIT", " 1 ")]) = .ok limits ∧
    (validateRecords backendRules bindingContext bindingCloud bindableRecords).1 = .ok validated ∧
    BackendPlan.compile bindingContext limits
      (List.zip [⟨0⟩, ⟨1⟩] (validated.filter Importable.isExecutable)) = .ok plans ∧
    plans.map (fun p => p.tasks.map Task.link) = [[("1", none), ("2", some "1")]] ∧
    ∀ p ∈ plans, Linear p.tasks ∧ checkChain p.tasks = .ok () := by
  have hlimits : Limits.ofVariables (.ofEntries [("IMPORT_BIND_RS_BATCH_LIMIT", " 1 ")]) =
      .ok { Limits.standard with backends := 1 } := by decide +kernel
  have htwo : (validateRecords backendRules bindingContext bindingCloud bindableRecords).1.map
      (fun vs => (vs.filter Importable.isExecutable).length) = .ok 2 := by decide +kernel
  have hlinks : (validateRecords backendRules bindingContext bindingCloud bindableRecords).1.map
      (fun vs => (BackendPlan.compile bindingContext { Limits.standard with backends := 1 }
        (List.zip [⟨0⟩, ⟨1⟩] (vs.filter Importable.isExecutable))).map
          (List.map fun p => p.tasks.map Task.link)) =
      .ok (.ok [[("1", none), ("2", some "1")]]) := by decide +kernel
  obtain ⟨validated, hvalidated, hlength⟩ := map_ok htwo
  have hitems : (([⟨0⟩, ⟨1⟩] : List Uuid).zip (validated.filter Importable.isExecutable)).map
      Prod.snd = validated.filter Importable.isExecutable :=
    List.map_snd_zip (Nat.le_of_eq hlength)
  obtain ⟨plans, hplans, haccepted⟩ := compile_validated (o := .backends)
    (List.mem_cons_of_mem _ List.mem_cons_self) hlimits hvalidated hitems
  rw [hvalidated] at hlinks
  obtain ⟨plans', hplans', hmap⟩ := map_ok (Except.ok.inj hlinks)
  obtain rfl := Except.ok.inj (hplans.symm.trans hplans')
  exact ⟨_, validated, plans, hlimits, hvalidated, hplans, hmap,
    fun p hp => ⟨(haccepted p hp).1, (haccepted p hp).2.1⟩⟩

end BalancerImport
