import BalancerImport.Proofs.Import.Undoing
import BalancerImport.Proofs.Plan.Tracing

/-!
# Two phases

A submission of plans starts nothing before all of them have their flows, watches and locks. Either
it takes everything back, or each plan is settled by itself.

* `Dispatch.Settles`: what became of a plan of an accepted submission; `Dispatch.Submits`: of all
  plans;
* `Launched.apart_of_prepared`: prepared plans work on resources that are distinct and were free;
* `Accepted.lock?_of_retired`: a flow that was taken back leaves its resource free;
* **`Dispatch.submitAll_phased`**: any submission.
-/

namespace BalancerImport

/-- A plan that was submitted to the dispatch `base`, which is now `d`: it has a new flow for its
tasks and a watch of that flow; the flow is pending and holds the resource of the plan, or it is
canceled and the resource is free. -/
structure Dispatch.Settles (base d : Dispatch LockList) (p : Plan) (s : Submitted) : Prop where
  key : s.key = p.key
  itemActions : s.itemActions = p.itemActions
  new : ∀ f ∈ base.engine.flows, f.id ≠ s.flow
  flow : ∃ f, d.engine.find? s.flow = some f ∧ f.name = p.flowName ∧ f.shared = p.shared ∧
    f.tasks.map TaskRecord.task = p.tasks ∧
    ((f.state = .pending ∧ ∃ k, d.locks.lock? p.key = some k ∧ k.owner = s.flow) ∨
      (f.state = .canceled ∧ d.locks.lock? p.key = none))
  watch : Engine.watchFlow s.watch (p.watch s.flow) ∈ d.engine.flows

/-- Plans that were submitted to the dispatch `base`, which is now `d`: each is settled, in order,
and the first flow is pending; their resources were free and are distinct, and no other lock
changed. -/
structure Dispatch.Submits (plans : List Plan) (base d : Dispatch LockList) (ss : List Submitted) :
    Prop where
  each : List.Forall₂ (base.Settles d) plans ss
  flows_nodup : (ss.map Submitted.flow).Nodup
  keys_nodup : (plans.map Plan.key).Nodup
  free : ∀ p ∈ plans, base.locks.lock? p.key = none
  first : ∀ s, ss.head? = some s → ∃ f, d.engine.find? s.flow = some f ∧ f.state = .pending
  locks : ∃ acquired, d.locks.entries = base.locks.entries ++ acquired ∧
    ∀ k ∈ acquired, k.key ∈ plans.map Plan.key

section

variable {now : Instant} {base d : Dispatch LockList} {plans : List Plan} {ss : List Submitted}
  {ls : List Launch} {l : Launch}

/-- **Plans that are prepared together work on distinct resources, which were free.** -/
theorem Launched.apart_of_prepared (h : Launched now base ls d)
    (hs : ∀ l ∈ ls, l.stage = .prepared) : ((ls.map Launch.plan).map Plan.key).Nodup ∧
      ∀ p ∈ ls.map Launch.plan, base.locks.lock? p.key = none := by
  have hlocks : ls.filterMap (Launch.lock? now) = ls.map (Launch.lock now) := by
    rw [← List.filterMap_eq_map]
    exact List.filterMap_congr fun l hl => Launch.lock?_of_holds (by rw [hs l hl]; rfl)
  constructor
  · have hkeys := h.keys_nodup
    rw [hlocks, List.map_map] at hkeys
    rwa [List.map_map]
  · refine List.forall_mem_map.mpr fun l hl => LockList.lock?_eq_none.mpr ?_
    exact h.apart (l.lock now) (hlocks ▸ List.mem_map_of_mem hl)

namespace Accepted

/-- A flow that was taken back leaves the resource of its plan free. -/
theorem lock?_of_retired (h : Accepted now base plans ss ls d) (hkeys : (plans.map Plan.key).Nodup)
    (hfree : ∀ p ∈ plans, base.locks.lock? p.key = none) (hl : l ∈ ls)
    (hretired : l.stage.holds = false) : d.locks.lock? l.plan.key = none := by
  rw [LockList.lock?_eq_none]
  intro k hk he
  rcases h.launched.lock_cases hk with hk | ⟨l', hl', hlock⟩
  · exact LockList.lock?_eq_none.mp (hfree l.plan (h.plan_mem hl)) k hk he
  · obtain ⟨hholds, hkey, -⟩ := Launch.lock?_eq_some hlock
    rw [← h.planned, List.map_map] at hkeys
    obtain rfl : l' = l := List.inj_on_of_nodup_map hkeys hl' hl (hkey.symm.trans he)
    exact nomatch hholds.symm.trans hretired

/-- Each plan has its launch, and what was handed out for it. -/
theorem forall₂_receipts (h : Accepted now base plans ss ls d) :
    List.Forall₂ (fun l s => l.receipt? = some s) ls ss := by
  have hreceipts := h.receipts
  rwa [← List.forall₂_eq_eq_eq, List.forall₂_map_left_iff, List.forall₂_map_right_iff] at hreceipts

theorem settles (h : Accepted now base plans ss ls d) (hb : base.engine.Fresh)
    (hkeys : (plans.map Plan.key).Nodup) (hfree : ∀ p ∈ plans, base.locks.lock? p.key = none)
    (hl : l ∈ ls) {s : Submitted} (hs : l.receipt? = some s) : base.Settles d l.plan s := by
  obtain ⟨hflow, hwatch, hkey, hactions⟩ := Launch.eq_of_receipt? hs
  have hname : l.main.name = l.plan.flowName := by
    unfold Launch.main
    cases l.stage <;> rfl
  refine ⟨hkey, hactions, hflow ▸ h.launched.base_id_ne hb hl, ⟨l.main, ?_, hname, l.main_shared,
    l.map_task, ?_⟩, hflow ▸ h.launched.watch_mem hl hwatch⟩
  · rw [hflow]
    exact h.launched.find?_main hb hl
  · rcases h.final l hl with hst | ⟨reason, hst⟩
    · refine .inl ⟨by rw [Launch.main, hst]; rfl, l.lock now, ?_, hflow.symm⟩
      exact h.launched.lock?_eq hl (by rw [hst]; rfl)
    · refine .inr ⟨by rw [Launch.main, hst]; rfl, ?_⟩
      exact h.lock?_of_retired hkeys hfree hl (by rw [hst]; rfl)

end Accepted

end

namespace Dispatch

variable {now : Instant} {plans : List Plan} {d d' : Dispatch LockList} {ss : List Submitted}

/-- An accepted submission was one of distinct resources, which were free. -/
theorem apart_of_submitAll (hok : d.submitAll now plans = (.ok ss, d')) :
    (plans.map Plan.key).Nodup ∧ ∀ p ∈ plans, d.locks.lock? p.key = none := by
  unfold submitAll at hok
  split at hok
  · exact nomatch congrArg Prod.fst hok
  · rename_i submitted d₁ hprepare
    obtain ⟨ls, h₁, hplans, hs, -⟩ :=
      Launched.prepareAll_ok plans (.refl now d) nofun rfl hprepare
    obtain rfl : ls.map Launch.plan = plans := hplans
    exact h₁.apart_of_prepared hs

/-- An accepted submission settles each plan. -/
theorem submits_of_submitAll (hb : d.engine.Fresh) (hok : d.submitAll now plans = (.ok ss, d')) :
    d.Submits plans d' ss := by
  obtain ⟨hkeys, hfree⟩ := apart_of_submitAll hok
  obtain ⟨ls, h⟩ := submitAll_ok hb hok
  constructor
  case each =>
    have hboth := (List.forall₂_and_left _ _).mpr ⟨fun l hl => hl, h.forall₂_receipts⟩
    rw [← h.planned, List.forall₂_map_left_iff]
    exact hboth.imp fun l s ⟨hl, hs⟩ => h.settles hb hkeys hfree hl hs
  case flows_nodup => exact h.launched.nodup_of_receipts h.receipts
  case keys_nodup => exact hkeys
  case free => exact hfree
  case first =>
    intro s hs
    have hreceipts := congrArg List.head? h.receipts
    rw [List.head?_map, List.head?_map, hs] at hreceipts
    obtain ⟨l, hl, hr⟩ := Option.map_eq_some_iff.mp hreceipts
    have hmem : l ∈ ls := List.mem_of_head? hl
    refine ⟨l.main, ?_, by rw [Launch.main, h.head l hl]; rfl⟩
    rw [(Launch.eq_of_receipt? hr).1]
    exact h.launched.find?_main hb hmem
  case locks =>
    refine ⟨ls.filterMap (Launch.lock? now), h.launched.locks, fun k hk => ?_⟩
    obtain ⟨l, hl, hlock⟩ := List.mem_filterMap.mp hk
    rw [(Launch.lock?_eq_some hlock).2.1]
    exact List.mem_map_of_mem (h.plan_mem hl)

/-- **A submission of plans has two phases.** Whatever is refused, it starts nothing before all
plans have their flows, watches and locks. If it fails, then nothing was started, the locks and the
earlier flows are as before, and the flows that it created are canceled. If not, then each plan is
settled by itself, with a resource that was free and is no other plan's. -/
theorem submitAll_phased (now : Instant) (plans : List Plan) (d : Dispatch LockList)
    (hb : d.engine.Fresh) :
    (∃ made, Requests.Phased plans (d.submitAll now plans).1 made ∧
      ∀ h, (Requests.noting LockList now).submitAll plans (d, h) =
        ((d.submitAll now plans).1, (d.submitAll now plans).2, h ++ made)) ∧
    (∀ e d', d.submitAll now plans = (.error e, d') → d.Undone d') ∧
    ∀ ss d', d.submitAll now plans = (.ok ss, d') → d.Submits plans d' ss := by
  refine ⟨Requests.submitAll_noting now plans d, fun e d' herr => ?_,
    fun ss d' hok => submits_of_submitAll hb hok⟩
  obtain ⟨ls, hls, hall⟩ := submitAll_error hb herr
  exact hls.undone fun l hl => (hall l hl).2

/-- A plan with one task. -/
def samplePlan (lbId : String) : Plan :=
  { flowName := "bind", lbId := lbId, key := .balancer lbId, purpose := .addBackend,
    subKind := none, subIds := [], tasks := [⟨"1", "bind", .null, .standard, none⟩], itemActions := [] }

/-- An engine that starts one flow only, and a balancer that is locked. -/
def sampleDispatch : Dispatch LockList :=
  { engine := { Engine.empty 0 with startBudget := some 1 }
    locks := { entries := [⟨.balancer "lb-9", .drawn 0 .flow 9, .addBackend, 0⟩] } }

/-- Of two plans only the first one is started, and two plans for one balancer are refused. -/
theorem submitAll_phased_halfway :
    (∃ ss d', sampleDispatch.submitAll 1 [samplePlan "lb-1", samplePlan "lb-2"] = (.ok ss, d') ∧
      ss.map Submitted.flow = [.drawn 0 .flow 0, .drawn 0 .flow 1] ∧
      d'.engine.flows.map Flow.state = [.pending, .pending, .canceled, .pending] ∧
      sampleDispatch.Submits [samplePlan "lb-1", samplePlan "lb-2"] d' ss) ∧
    ∃ d', sampleDispatch.submitAll 1 [samplePlan "lb-1", samplePlan "lb-1"] =
        (.error (.busy (.balancer "lb-1") (.drawn 0 .flow 0)), d') ∧
      d'.engine.flows.map Flow.state = [.canceled, .pending, .canceled, .pending] ∧
      sampleDispatch.Undone d' := by
  have hfresh : sampleDispatch.engine.Fresh := ⟨.nil, .nil⟩
  obtain ⟨-, -, hsubmits⟩ :=
    submitAll_phased 1 [samplePlan "lb-1", samplePlan "lb-2"] sampleDispatch hfresh
  obtain ⟨-, hundone, -⟩ :=
    submitAll_phased 1 [samplePlan "lb-1", samplePlan "lb-1"] sampleDispatch hfresh
  exact ⟨⟨_, _, rfl, rfl, rfl, hsubmits _ _ rfl⟩, ⟨_, rfl, rfl, hundone _ _ rfl⟩⟩

end Dispatch

end BalancerImport
