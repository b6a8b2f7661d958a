import BalancerImport.Proofs.Flow.Chain
import BalancerImport.Proofs.Import.Execution

/-!
# Executions that are accepted

The report of an execution, the entries of the ledger, the flows of the engine and the locks are
built one after the other. They tell the same story about the records that were executed.

* `Report.Agrees`: what the report, the ledger, the engine and the locks have in common;
* `Accepted.updated`: what noting flows makes of the item of a record;
* **`Desk.execute_agrees`**: all of it holds after an execution that is accepted.
-/

namespace BalancerImport

/-! ## What agrees -/

/-- A report on the execution of the records `es` out of `total` agrees with what became of a desk
`d`: it is now `d'`, with new `items` in its ledger, and with new flows in its engine, of which the
`mains` work on balancers and the `watches` wait for them. -/
structure Report.Agrees {R : Type} [Importable R] (ctx : Context) (source : Source) (total : Nat)
    (es : List R) (report : Report) (d d' : Desk MemoryLedger LockList) (items : List Item)
    (mains watches : List Flow) : Prop where
  executed : report.executed = es.length
  positive : 0 < es.length
  skipped : es.length + report.skipped = total
  /-- One running job with the flows of the report. -/
  jobs_eq : d'.ledger.jobs = d.ledger.jobs ++
    [{ (NewJob.ofImport R ctx source).start report.job with flows := report.flows }]
  /-- One item for each record. -/
  items_eq : d'.ledger.items = d.ledger.items ++ items
  params : List.Forall₂ (fun r i => i.job = report.job ∧ i.state = .init ∧
    i.param = Importable.encode r) es items
  /-- One flow and one watch for each balancer. -/
  flows_eq : d'.dispatch.engine.flows =
    d.dispatch.engine.flows ++ (List.zipWith (fun m w => [m, w]) mains watches).flatten
  main_ids : mains.map Flow.id = report.flows
  watch_ids : watches.map Flow.id = report.watches
  balancers : List.Forall₂ Flow.IsFor mains (es.filterMap Importable.lbId).eraseDups
  watched : List.Forall₂ (fun m w => ∃ x, w.watch = some x ∧ x.flow = m.id ∧ m.IsFor x.resourceId ∧
    x.resourceKind = Named.name ResourceKind.loadBalancer) mains watches
  /-- The flows of the items are those of the job. -/
  item_flows : ∀ id, id ∈ report.flows ↔ ∃ i ∈ items, i.flow = some id
  /-- Each item has one action of the flow for its balancer, and the task of that action names
  it. -/
  assigned : List.Forall₂ (fun r i => ∃ lbId, Importable.lbId r = some lbId ∧
    ∃ m ∈ mains, m.IsFor lbId ∧ i.flow = some m.id ∧
      ∃ t ∈ m.tasks, i.actions = [t.task.id] ∧
        ∃ ids, t.task.params.member? itemsField = some (.strs ids) ∧ i.id.text ∈ ids) es items
  actions_nodup : ∀ m ∈ mains, (m.tasks.map fun t => t.task.id).Nodup
  /-- The first flow is pending, and each one that is not is canceled and holds no lock. -/
  first : ∀ m, mains.head? = some m → m.state = .pending
  settled : ∀ m ∈ mains, ∃ lbId, m.IsFor lbId ∧
    ((m.state = .pending ∧
        ∃ k, d'.dispatch.locks.lock? (.balancer lbId) = some k ∧ k.owner = m.id) ∨
      (m.state = .canceled ∧ ∀ k ∈ d'.dispatch.locks.entries, k.owner ≠ m.id))
  locks_eq : ∃ acquired, d'.dispatch.locks.entries = d.dispatch.locks.entries ++ acquired

/-! ## Launches -/

section

variable {now : Instant} {base d : Dispatch LockList} {plans : List Plan} {ss : List Submitted}
  {ls : List Launch} {l : Launch}

/-- The watch of a launch. -/
def Launch.watcher? (l : Launch) : Option Flow :=
  l.watch.map fun w => Engine.watchFlow w (l.plan.watch l.flow)

theorem Launch.watcher?_isSome {s : Submitted} (h : l.receipt? = some s) :
    ∃ w, l.watcher? = some w ∧ w.id = s.watch ∧ w.watch = some (l.plan.watch l.flow) ∧
      l.flows = [l.main, w] := by
  obtain ⟨-, hw, -⟩ := eq_of_receipt? h
  exact ⟨Engine.watchFlow s.watch (l.plan.watch l.flow), by simp [watcher?, hw], rfl, rfl,
    by simp [flows, hw]⟩

namespace Accepted

theorem receipt (h : Accepted now base plans ss ls d) (hl : l ∈ ls) :
    ∃ s ∈ ss, l.receipt? = some s := by
  have hm : l.receipt? ∈ ss.map some := h.receipts ▸ List.mem_map_of_mem hl
  obtain ⟨s, hs, he⟩ := List.mem_map.mp hm
  exact ⟨s, hs, he.symm⟩

theorem itemActions (h : Accepted now base plans ss ls d) :
    ss.flatMap Submitted.itemActions = plans.flatMap Plan.itemActions := by
  have hmap := Launch.map_of_receipts (g := Submitted.itemActions)
    (fun _ _ hr => (Launch.eq_of_receipt? hr).2.2.2) h.receipts
  rw [List.flatMap_def, hmap, ← h.planned, List.flatMap_map, List.flatMap_def]

/-- The plan of an item was launched. -/
theorem exists_launch {R : Type} [Importable R] {items : List (Uuid × R)}
    (h : Accepted now base plans ss ls d) (hp : Partitions items plans) {item : Uuid × R}
    (hi : item ∈ items) : ∃ l ∈ ls, Importable.lbId item.2 = some l.plan.lbId := by
  obtain ⟨p, hpp, hlb⟩ := hp.exists_plan hi
  obtain ⟨l, hl, rfl⟩ := List.mem_map.mp (h.planned ▸ hpp)
  exact ⟨l, hl, hlb⟩

/-- **Noting flows gives the item of a record the flow of its balancer, and the action of a task
that names it.** -/
theorem updated {R : Type} [Importable R] {items : List (Uuid × R)}
    (h : Accepted now base plans ss ls d) (hp : Partitions items plans)
    (hnodup : (items.map Prod.fst).Nodup) (hl : l ∈ ls) {item : Uuid × R} (hi : item ∈ items)
    (hlb : Importable.lbId item.2 = some l.plan.lbId) {i : Item} (hid : i.id = item.1) :
    ∃ t ∈ l.main.tasks, MemoryLedger.applyAll (ss.flatMap Submitted.updates) i =
        { i with flow := some l.flow, actions := [t.task.id] } ∧
      ∃ ids, t.task.params.member? itemsField = some (.strs ids) ∧ i.id.text ∈ ids := by
  obtain ⟨s, hs, hr⟩ := h.receipt hl
  obtain ⟨hflow, -, -, hactions⟩ := Launch.eq_of_receipt? hr
  obtain ⟨task, htask, haction, ids, hparams, hids⟩ :=
    (hp.carries _ (h.plan_mem hl)).action_of_item (List.mem_filter.mpr ⟨hi, by simpa using hlb⟩)
  rw [← Launch.map_task] at htask
  obtain ⟨t, ht, rfl⟩ := List.mem_map.mp htask
  have hitems : (ss.flatMap Submitted.updates).map ItemUpdate.item =
      (plans.flatMap Plan.itemActions).map Prod.fst := by
    rw [← h.itemActions, List.map_flatMap, List.map_flatMap]
    simp [Submitted.updates, Function.comp_def]
  have hupdate : { item := item.1, flow := s.flow, actions := [t.task.id] } ∈
      ss.flatMap Submitted.updates := by
    refine List.mem_flatMap.mpr ⟨s, hs, List.mem_map.mpr ⟨(item.1, t.task.id), ?_, rfl⟩⟩
    rwa [hactions]
  refine ⟨t, ht, ?_, ids, hparams, by rwa [hid]⟩
  rw [← hflow]
  exact MemoryLedger.applyAll_of_mem (hitems ▸ hp.nodup_actions hnodup) hupdate hid.symm

/-- A flow that was launched is pending with its lock, or canceled without any. -/
theorem settled (h : Accepted now base plans ss ls d) (hb : base.Fresh) (hl : l ∈ ls) :
    (l.main.state = .pending ∧ ∃ k, d.locks.lock? l.plan.key = some k ∧ k.owner = l.main.id) ∨
      (l.main.state = .canceled ∧ ∀ k ∈ d.locks.entries, k.owner ≠ l.main.id) := by
  rcases h.final l hl with hst | ⟨reason, hst⟩
  · left
    refine ⟨by rw [Launch.main, hst]; rfl, _, h.launched.lock?_eq hl (by rw [hst]; rfl), ?_⟩
    exact (Launch.main_id l).symm
  · right
    refine ⟨by rw [Launch.main, hst]; rfl, ?_⟩
    rw [Launch.main_id]
    exact h.launched.owner_ne hb hl (by rw [hst]; rfl)

theorem flows_eq (h : Accepted now base plans ss ls d) :
    ls.flatMap Launch.flows =
      (List.zipWith (fun m w => [m, w]) (ls.map Launch.main)
        (ls.filterMap Launch.watcher?)).flatten ∧
    (ls.filterMap Launch.watcher?).map Flow.id = ss.map Submitted.watch ∧
    List.Forall₂ (fun l w => w.watch = some (l.plan.watch l.flow)) ls
      (ls.filterMap Launch.watcher?) := by
  have hr := h.receipts
  clear h
  induction ls generalizing ss with
  | nil => cases ss with
    | nil => exact ⟨rfl, rfl, .nil⟩
    | cons s ss => simp at hr
  | cons l ls ih => cases ss with
    | nil => simp at hr
    | cons s ss =>
      obtain ⟨hs, hrest⟩ := List.cons.inj hr
      obtain ⟨w, hw, hid, hwatch, hflows⟩ := Launch.watcher?_isSome hs
      obtain ⟨h₁, h₂, h₃⟩ := ih hrest
      rw [List.filterMap_cons_some hw]
      refine ⟨?_, ?_, .cons hwatch h₃⟩
      · rw [List.flatMap_cons, hflows, h₁]
        rfl
      · rw [List.map_cons, List.map_cons, hid, h₂]

end Accepted

end

/-! ## The whole execution -/

section

variable {R : Type} [Importable R] {ctx : Context} {source : Source} {es : List R} {w : Written}
  {d d' : Desk MemoryLedger LockList} {ledger : MemoryLedger} {plans : List Plan}
  {ss : List Submitted} {ls : List Launch} {total : Nat}

/-- The items of an import after flows were noted in them. -/
def notedItems (w : Written) (es : List R) (ss : List Submitted) : List Item :=
  (w.items.zip es).map fun x => MemoryLedger.applyAll (ss.flatMap Submitted.updates)
    ((NewItem.ofRecord w.job x.2).start x.1)

/-- Each record was launched with the plan of its balancer, and its item tells so. -/
theorem noted_item (hadds : w.Adds ctx source es d.ledger ledger)
    (hplans : Partitions (w.items.zip es) plans)
    (hls : Accepted d.now d.dispatch plans ss ls d'.dispatch) {l : Launch} (hl : l ∈ ls)
    {x : Uuid × R} (hx : x ∈ w.items.zip es) (hlb : Importable.lbId x.2 = some l.plan.lbId) :
    ∃ t ∈ l.main.tasks, MemoryLedger.applyAll (ss.flatMap Submitted.updates)
        ((NewItem.ofRecord w.job x.2).start x.1) =
          { (NewItem.ofRecord w.job x.2).start x.1 with
            flow := some l.flow, actions := [t.task.id] } ∧
      ∃ ids, t.task.params.member? itemsField = some (.strs ids) ∧ x.1.text ∈ ids := by
  have hnodup : ((w.items.zip es).map Prod.fst).Nodup := by
    rw [List.map_fst_zip (Nat.le_of_eq hadds.length)]
    exact hadds.nodup
  exact hls.updated hplans hnodup hl hx hlb rfl

/-- An accepted submission of what was written, once it is noted, makes for a report that agrees. -/
theorem agrees_of_accepted (hne : es ≠ []) (hle : es.length ≤ total)
    (hadds : w.Adds ctx source es d.ledger ledger) (hplans : Partitions (w.items.zip es) plans)
    (hls : Accepted d.now d.dispatch plans ss ls d'.dispatch) (hd : d.dispatch.Fresh)
    (hjobs : d'.ledger.jobs = d.ledger.jobs ++
      [{ (NewJob.ofImport R ctx source).start w.job with flows := ss.map Submitted.flow }])
    (hitems : d'.ledger.items = d.ledger.items ++ notedItems w es ss) :
    (Report.of w ss total).Agrees ctx source total es d d' (notedItems w es ss)
      (ls.map Launch.main) (ls.filterMap Launch.watcher?) := by
  have hsnd : (w.items.zip es).map Prod.snd = es :=
    List.map_snd_zip (Nat.le_of_eq hadds.length.symm)
  have hids : ss.map Submitted.flow = ls.map Launch.flow := Launch.map_flow_of_receipts hls.receipts
  have hbalancers : (es.filterMap Importable.lbId).eraseDups = ls.map fun l => l.plan.lbId := by
    have hdistinct := hplans.balancers
    rw [← hls.planned, List.map_map] at hdistinct
    have hrecords : (w.items.zip es).filterMap (fun item => Importable.lbId item.2) =
        es.filterMap Importable.lbId := by
      conv_rhs => rw [← hsnd, List.filterMap_map]
      rfl
    rw [← hrecords, ← hdistinct]
    rfl
  have hkeys : ∀ l ∈ ls, l.plan.key = .balancer l.plan.lbId := fun l hl =>
    (hplans.carries _ (hls.plan_mem hl)).key
  obtain ⟨hflows, hwatches, hwatched⟩ := hls.flows_eq
  constructor
  case executed => exact hadds.length
  case positive => exact List.length_pos_iff.mpr hne
  case skipped =>
    show es.length + (total - w.items.length) = total
    rw [hadds.length, Nat.add_sub_cancel' hle]
  case jobs_eq => exact hjobs
  case items_eq => exact hitems
  case params =>
    conv => arg 2; rw [← hsnd]
    refine forall₂_map_snd fun x hx => ?_
    obtain ⟨l, hl, hlb⟩ := hls.exists_launch hplans hx
    obtain ⟨t, -, he, -⟩ := noted_item hadds hplans hls hl hx hlb
    rw [he]
    exact ⟨rfl, rfl, rfl⟩
  case flows_eq => rw [hls.launched.flows, hflows]
  case main_ids =>
    rw [List.map_map]
    exact (List.map_congr_left fun l _ => Launch.main_id l).trans hids.symm
  case watch_ids => exact hwatches
  case balancers =>
    rw [hbalancers, List.forall₂_map_left_iff, List.forall₂_map_right_iff, List.forall₂_same]
    exact fun l _ => l.main_isFor
  case watched =>
    rw [List.forall₂_map_left_iff]
    refine ((List.forall₂_and_left _ _).mpr ⟨hkeys, hwatched⟩).imp fun l w ⟨hkey, hw⟩ => ?_
    refine ⟨_, hw, (Launch.main_id l).symm, ?_, ?_⟩
    · show l.main.IsFor l.plan.key.id
      rw [hkey]
      exact l.main_isFor
    · show Named.name l.plan.key.kind = _
      rw [hkey]
      rfl
  case item_flows =>
    intro id
    show id ∈ ss.map Submitted.flow ↔ _
    rw [hids]
    constructor
    · intro hm
      obtain ⟨l, hl, rfl⟩ := List.mem_map.mp hm
      obtain ⟨x, hx, hlb⟩ := hplans.exists_item (hls.plan_mem hl)
      obtain ⟨t, -, he, -⟩ := noted_item hadds hplans hls hl hx hlb
      exact ⟨_, List.mem_map_of_mem hx, by rw [he]⟩
    · rintro ⟨i, hi, hflow⟩
      obtain ⟨x, hx, rfl⟩ := List.mem_map.mp hi
      obtain ⟨l, hl, hlb⟩ := hls.exists_launch hplans hx
      obtain ⟨t, -, he, -⟩ := noted_item hadds hplans hls hl hx hlb
      rw [he] at hflow
      obtain rfl := Option.some.inj hflow
      exact List.mem_map_of_mem hl
  case assigned =>
    conv => arg 2; rw [← hsnd]
    refine forall₂_map_snd fun x hx => ?_
    obtain ⟨l, hl, hlb⟩ := hls.exists_launch hplans hx
    obtain ⟨t, ht, he, ids, hparams, hm⟩ := noted_item hadds hplans hls hl hx hlb
    rw [he]
    exact ⟨_, hlb, l.main, List.mem_map_of_mem hl, l.main_isFor, by rw [Launch.main_id],
      t, ht, rfl, ids, hparams, hm⟩
  case actions_nodup =>
    intro m hm
    obtain ⟨l, hl, rfl⟩ := List.mem_map.mp hm
    have hnodup := nodup_of_checkChain (hls.chained _ (hls.plan_mem hl))
    rwa [← Launch.map_task, List.map_map] at hnodup
  case first =>
    intro m hm
    rw [List.head?_map, Option.map_eq_some_iff] at hm
    obtain ⟨l, hl, rfl⟩ := hm
    rw [Launch.main, hls.head l hl]
    rfl
  case settled =>
    intro m hm
    obtain ⟨l, hl, rfl⟩ := List.mem_map.mp hm
    exact ⟨_, l.main_isFor, hkeys l hl ▸ hls.settled hd hl⟩
  case locks_eq => exact ⟨_, hls.launched.locks⟩

end

namespace Desk

variable {o : Offer} {ctx : Context} {source : Source} {rs : List o.Record} {w : Written}
  {d d' : Desk MemoryLedger LockList} {report : Report}

/-- **An accepted execution leaves the report, the ledger, the engine and the locks in
agreement.** -/
theorem execute_agrees (ho : o ∈ Offer.all) (hl : d.ledger.Fresh) (hd : d.dispatch.Fresh)
    (h : d.execute o.capability ctx source rs = (.ok report, d')) :
    ∃ validated, (d.validate o.capability.rules ctx rs).1 = .ok validated ∧
      ∃ items mains watches, report.Agrees ctx source rs.length
        (validated.filter Importable.isExecutable) d d' items mains watches := by
  obtain ⟨validated, w, ledger, ss, n, hv, hne, hwrite, hlaunch, rfl⟩ := execute_ok h
  have hadds := Written.write_ok hl hwrite
  obtain ⟨d₁, ledger', hsubmit, hattach, rfl⟩ := launch_ok hlaunch
  obtain ⟨plans, ls, hplans, hls, hd₁⟩ :=
    submit_ok (d := { d with ledger := ledger, lookups := n }) ho hd.engine hsubmit
  have hledger : d₁.ledger = ledger := by rw [hd₁]
  have hlocal := items_of_submitted hplans hls
  have hu : d.ledger.refusesUpdates = false := by
    cases hu : d.ledger.refusesUpdates with
    | false => rfl
    | true =>
      obtain ⟨e, he⟩ := Written.attach_refused (w := w) (hadds.refusesUpdates.trans hu) ss
      rw [hledger, he] at hattach
      exact nomatch congrArg Prod.fst hattach
  rw [hledger, Written.attach_ok hadds hu hlocal] at hattach
  obtain rfl := (congrArg Prod.snd hattach).symm
  refine ⟨validated, hv, notedItems w (validated.filter Importable.isExecutable) ss,
    ls.map Launch.main, ls.filterMap Launch.watcher?, ?_⟩
  have hle : (validated.filter Importable.isExecutable).length ≤ rs.length :=
    length_validate hv ▸ List.length_filter_le _ _
  rw [length_validate hv]
  exact agrees_of_accepted hne hle hadds hplans hls hd rfl (hadds.noted hlocal)

/-- Where only one flow can be started, the other one is canceled and the execution is accepted all
the same. -/
theorem execute_agrees_oneStarted : ∃ report d' items mains watches,
    ∃ validated : List ListenerRecord,
    (sample (some 1) false).execute listenerCapability sampleContext .excel sampleRecords =
      (.ok report, d') ∧ report.flows.length = 2 ∧
    report.Agrees sampleContext .excel 3 (validated.filter Importable.isExecutable)
      (sample (some 1) false) d' items mains watches := by
  have hok : ((sample (some 1) false).execute listenerCapability sampleContext .excel
      sampleRecords).1 = .ok { job := ⟨0⟩, flows := [⟨2⟩, ⟨6⟩], watches := [⟨3⟩, ⟨7⟩],
                               executed := 3, skipped := 0 } := by decide +kernel
  obtain ⟨hledger, hdispatch⟩ := fresh_sample (some 1) false
  obtain ⟨validated, -, items, mains, watches, hagrees⟩ :=
    execute_agrees (o := .listeners) List.mem_cons_self hledger hdispatch (Prod.ext hok rfl)
  exact ⟨_, _, items, mains, watches, validated, Prod.ext hok rfl, rfl, hagrees⟩

end Desk

end BalancerImport
