import BalancerImport.Proofs.Import.Execution

/-!
# Executions that are refused

An execution that fails, at whatever stage, takes back what it did until then.

* `Dispatch.Undone`: locks as before, and besides the flows of before only canceled ones;
* **`Desk.execute_undone`**: what a refused execution leaves of the locks, the engine and the
  ledger.
-/

namespace BalancerImport

/-- A dispatch `d` after an import on the dispatch `base` was taken back: it has the same locks, and
flows that were added are watches or canceled without one attempt, and were not queued. -/
structure Dispatch.Undone (base d : Dispatch LockList) : Prop where
  locks : d.locks = base.locks
  flows : ∃ created queued, d.engine.flows = base.engine.flows ++ created ∧
    d.engine.queue.waiting = base.engine.queue.waiting ++ queued ∧
    ∀ f ∈ created, f.watch = none → f.state = .canceled ∧ f.id ∉ queued ∧
      ∀ t ∈ f.tasks, t.state = .canceled ∧ t.attempts = 0

/-- Tasks that were not tried are canceled with their flow. -/
theorem Launch.tasks_of_retired {l : Launch} {reason : String} (h : l.stage = .retired reason) :
    ∀ t ∈ l.main.tasks, t.state = .canceled ∧ t.attempts = 0 := by
  intro t ht
  have htasks : l.main.tasks = l.plan.tasks.map fun t => Engine.cancelTask t.start := by
    simp [main, h, Stage.apply, Engine.cancelFlow, dormant, Engine.dormantFlow, Function.comp_def]
  rw [htasks] at ht
  obtain ⟨task, -, rfl⟩ := List.mem_map.mp ht
  exact ⟨rfl, rfl⟩

/-- Launches that are all retired leave nothing behind. -/
theorem Launched.undone {now : Instant} {base d : Dispatch LockList} {ls : List Launch}
    (h : Launched now base ls d) (hr : ∀ l ∈ ls, ∃ reason, l.stage = .retired reason) :
    base.Undone d := by
  have hnone : ls.filterMap (Launch.lock? now) = [] := by
    rw [List.filterMap_eq_nil_iff]
    intro l hl
    obtain ⟨reason, hreason⟩ := hr l hl
    exact Launch.lock?_of_not_holds (by rw [hreason]; rfl)
  have hlocks : d.locks.entries = base.locks.entries := by rw [h.locks, hnone, List.append_nil]
  obtain ⟨begun, hqueue, hbegun⟩ := h.queue
  refine ⟨congrArg LockList.mk hlocks, ls.flatMap Launch.flows, ls.filterMap Launch.watch ++ begun,
    h.flows, by rw [hqueue, List.append_assoc], fun f hf hmain => ?_⟩
  obtain ⟨l, hl, hfl⟩ := List.mem_flatMap.mp hf
  obtain ⟨reason, hreason⟩ := hr l hl
  rcases Launch.mem_flows.mp hfl with rfl | ⟨w, hw, rfl⟩
  · refine ⟨by rw [Launch.main, hreason]; rfl, ?_, Launch.tasks_of_retired hreason⟩
    rw [Launch.main_id, List.mem_append, not_or]
    constructor
    · intro hm
      obtain ⟨l', hl', hw⟩ := List.mem_filterMap.mp hm
      exact h.drawn.flow_ne_watch hl hl' hw rfl
    · intro hm
      obtain ⟨l', hl', hst, he⟩ := (hbegun _).mp hm
      obtain ⟨reason', hreason'⟩ := hr l' hl'
      cases hst.symm.trans hreason'
  · cases hmain

theorem Dispatch.Undone.refl (d : Dispatch LockList) : d.Undone d :=
  (Launched.refl 0 d).undone (by simp)

namespace Desk

variable {o : Offer} {ctx : Context} {source : Source} {rs : List o.Record} {w : Written}
  {d d' : Desk MemoryLedger LockList} {e : ImportError}

/-- What was written is deleted, or the error says that it is still there. -/
theorem compensate_cases {ledger : MemoryLedger} {executable : List o.Record} {cause : ImportError}
    (hw : w.Adds ctx source executable ledger d.ledger) (h : d.compensate w cause = (e, d')) :
    d'.dispatch = d.dispatch ∧
    (ledger.refusesDeletes = false →
      d'.ledger.jobs = ledger.jobs ∧ d'.ledger.items = ledger.items) ∧
    (ledger.refusesDeletes = true →
      ∃ refusal, e = .rollbackFailed w.job cause refusal ∧ d'.ledger = d.ledger) := by
  unfold compensate at h
  cases hd : ledger.refusesDeletes with
  | false =>
    rw [Written.rollback_eq hw hd] at h
    obtain ⟨-, rfl⟩ := Prod.mk.inj h
    exact ⟨rfl, fun _ => ⟨rfl, rfl⟩, fun h => nomatch h⟩
  | true =>
    obtain ⟨refusal, herr⟩ := Written.rollback_error (w := w) (hw.refusesDeletes.trans hd)
    rw [herr] at h
    obtain ⟨rfl, rfl⟩ := Prod.mk.inj h
    exact ⟨rfl, fun h => (nomatch h), fun _ => ⟨refusal, rfl, rfl⟩⟩

/-- **A refused execution is taken back.** The locks are as before, and so are the flows, but for
canceled ones that were not queued. If the ledger lets entries be deleted, its entries are as before
too; if not, and the execution had written, then the error names the job, which is still there with
all its items. If writing itself failed there, the job is there with items for the first records,
and the error says how many; otherwise the ledger is as before. -/
theorem execute_undone (ho : o ∈ Offer.all) (hl : d.ledger.Fresh) (hb : d.dispatch.engine.Fresh)
    (hu : d.ledger.refusesUpdates = false)
    (h : d.execute o.capability ctx source rs = (.error e, d')) :
    d.dispatch.Undone d'.dispatch ∧
    (d.ledger.refusesDeletes = false →
      d'.ledger.jobs = d.ledger.jobs ∧ d'.ledger.items = d.ledger.items) ∧
    (d.ledger.refusesDeletes = true →
      ∀ executable w, d.written? o.capability ctx source rs = some (executable, w) →
        ∃ cause refusal, e = .rollbackFailed w.job cause refusal ∧
          w.Adds ctx source executable d.ledger d'.ledger) ∧
    (d.ledger.refusesDeletes = true → d.written? o.capability ctx source rs = none →
      d'.ledger = d.ledger ∨ ∃ validated,
        (d.validate o.capability.rules ctx rs).1 = .ok validated ∧
        let executable := validated.filter Importable.isExecutable
        let kept := executable.take (executable.length - d.ledger.lostOnCreate)
        kept.length < executable.length ∧
        e = .incompleteItems executable.length kept.length ∧
        ∃ w : Written, w.Adds ctx source kept d.ledger d'.ledger) := by
  obtain ⟨n, ⟨hnone, rfl⟩ | ⟨validated, ledger, hnone, hv, hwrite, rfl⟩ |
    ⟨executable, w, ledger, hsome, hwrite, hlaunch⟩⟩ := execute_error h
  · refine ⟨.refl _, fun _ => ⟨rfl, rfl⟩, fun _ _ _ hw => ?_, fun _ _ => .inl rfl⟩
    rw [hnone] at hw
    exact nomatch hw
  · refine ⟨.refl _, fun hd => Written.write_error hl hd hwrite, fun _ _ _ hw => ?_,
      fun hd _ => .inr ⟨validated, hv, Written.write_error_of_refused hl hd hwrite⟩⟩
    rw [hnone] at hw
    exact nomatch hw
  · have hadds : w.Adds ctx source executable d.ledger ledger := Written.write_ok hl hwrite
    rcases launch_error hlaunch with ⟨cause, d₁, hsubmit, hcompensate⟩ |
      ⟨ss, d₁, ledger', hsubmit, hattach, -⟩
    · obtain ⟨ls, hls, hall, hd₁⟩ :=
        submit_error (d := { d with ledger := ledger, lookups := n }) ho hb hsubmit
      have hledger : d₁.ledger = ledger := by rw [hd₁]
      obtain ⟨hdispatch, hrestored, hkept⟩ := compensate_cases (hledger ▸ hadds) hcompensate
      refine ⟨?_, hrestored, fun hd executable' w' hw => ?_, fun _ hnone => ?_⟩
      · rw [hdispatch]
        exact hls.undone fun l hl => (hall l hl).2
      · obtain ⟨rfl, rfl⟩ := Prod.mk.inj (Option.some.inj (hsome.symm.trans hw))
        obtain ⟨refusal, rfl, hsame⟩ := hkept hd
        exact ⟨cause, refusal, rfl, by rwa [hsame, hledger]⟩
      · exact nomatch hsome.symm.trans hnone
    · -- noting flows does not fail where updates are accepted
      obtain ⟨plans, ls, hplans, hls, hd₁⟩ :=
        submit_ok (d := { d with ledger := ledger, lookups := n }) ho hb hsubmit
      have hok := Written.attach_ok hadds hu (items_of_submitted hplans hls)
      have hledger : d₁.ledger = ledger := by rw [hd₁]
      rw [hledger, hok] at hattach
      exact nomatch congrArg Prod.fst hattach

/-- A desk where nothing can be deleted, and one item of each import is lost. -/
def sampleLosing : Desk MemoryLedger LockList :=
  { sample none true with ledger := { (sample none true).ledger with lostOnCreate := 1 } }

/-- Where no flow can be started and nothing can be deleted, what was written stays and the error
says so, while the locks are as before. Where an item is lost, the job stays with the others. -/
theorem execute_undone_stuck :
    (∃ e d', (sample (some 0) true).execute listenerCapability sampleContext .excel sampleRecords =
        (.error e, d') ∧ (sample (some 0) true).dispatch.Undone d'.dispatch ∧
      ∃ executable w cause refusal, e = .rollbackFailed w.job cause refusal ∧
        Written.Adds (R := ListenerRecord) sampleContext .excel executable w
          (sample (some 0) true).ledger d'.ledger) ∧
    ∃ d', sampleLosing.execute listenerCapability sampleContext .excel sampleRecords =
        (.error (.incompleteItems 3 2), d') ∧ sampleLosing.dispatch.Undone d'.dispatch ∧
      ∃ kept w, kept.length = 2 ∧ Written.Adds (R := ListenerRecord) sampleContext .excel kept w
        sampleLosing.ledger d'.ledger := by
  constructor
  · have hrefused : ((sample (some 0) true).execute listenerCapability sampleContext .excel
        sampleRecords).1 = .error (.rollbackFailed ⟨0⟩ (.flow (.refused .start))
          (.store (.refused "delete_task_items"))) := by decide +kernel
    have hwritten : ((sample (some 0) true).written? listenerCapability sampleContext .excel
        sampleRecords).isSome = true := by decide +kernel
    obtain ⟨⟨executable, w⟩, hw⟩ := Option.isSome_iff_exists.mp hwritten
    obtain ⟨hledger, hdispatch⟩ := fresh_sample (some 0) true
    obtain ⟨hundone, -, hkept, -⟩ := execute_undone (o := .listeners) List.mem_cons_self hledger
      hdispatch.engine rfl (Prod.ext hrefused rfl)
    obtain ⟨cause, refusal, he, hadds⟩ := hkept rfl executable w hw
    exact ⟨_, _, Prod.ext hrefused rfl, hundone, executable, w, cause, refusal, he, hadds⟩
  · have hrefused : (sampleLosing.execute listenerCapability sampleContext .excel
        sampleRecords).1 = .error (.incompleteItems 3 2) := by decide +kernel
    have hnone : (sampleLosing.written? listenerCapability sampleContext .excel
        sampleRecords).isNone = true := by decide +kernel
    have hjobs : (sampleLosing.execute listenerCapability sampleContext .excel
        sampleRecords).2.ledger.jobs.length = 1 := by decide +kernel
    rcases hexecute : sampleLosing.execute listenerCapability sampleContext .excel sampleRecords
      with ⟨answer, d'⟩
    rw [hexecute] at hrefused hjobs
    obtain rfl : answer = .error (.incompleteItems 3 2) := hrefused
    obtain ⟨hundone, -, -, hshort⟩ := execute_undone (o := .listeners) (d := sampleLosing)
      List.mem_cons_self ⟨.nil, .nil⟩ (fresh_sample none true).2.engine rfl hexecute
    rcases hshort rfl (Option.isNone_iff_eq_none.mp hnone) with
      hsame | ⟨validated, -, -, he, w, hadds⟩
    · rw [hsame] at hjobs
      exact nomatch hjobs
    · refine ⟨d', rfl, hundone, _, w, ?_, hadds⟩
      exact (ImportError.incompleteItems.inj he).2.symm

end Desk

end BalancerImport
