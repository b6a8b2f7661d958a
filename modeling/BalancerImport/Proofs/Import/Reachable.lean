import BalancerImport.Proofs.Import.Execution
import BalancerImport.Proofs.Import.Passes

/-!
# Runs of a desk

Everything that can happen at a desk with stores in memory, in any order: calls of the service,
passes of the worker, flows that are canceled, changes of the cloud and of the clock, and failures
that are switched on and off.

* `Desk.opened`, `Desk.Step`, `Desk.Reachable`: desks that can be reached;
* `Desk.Step.sound`, `Desk.Reachable.sound`: the invariant of the engine and the locks holds in all;
* `Desk.Reachable.fresh`: and identifiers that are in use are not drawn again;
* `Dispatch.Exclusive`: no two flows work on one balancer at a time;
* **`Desk.reachable_exclusive`**: whatever happens, flows exclude each other by locks;
* **`Desk.reachable_run_quiet`**: whatever happened, a pass of the worker leaves nothing that waits.
-/

namespace BalancerImport

namespace Desk

variable {d d' : Desk MemoryLedger LockList}

/-- A desk whose stores were never used. -/
def opened (ledgerSeed engineSeed : Nat) (cloud : Cloud) (limits : Limits) (now : Instant) :
    Desk MemoryLedger LockList :=
  { ledger := .empty ledgerSeed, dispatch := { engine := .empty engineSeed, locks := .empty },
    cloud := cloud, lookups := 0, limits := limits, now := now }

/-- What can happen at a desk. -/
inductive Step : Desk MemoryLedger LockList → Desk MemoryLedger LockList → Prop where
  | preview (ctx : Context) (operation : Operation) (rows : List (List String))
      (d : Desk MemoryLedger LockList) : Step d (Service.preview ctx operation rows d).2
  | validate (ctx : Context) (operation : Operation) (records : Json)
      (d : Desk MemoryLedger LockList) : Step d (Service.validate ctx operation records d).2
  | execute (ctx : Context) (operation : Operation) (source : Source) (records : Json)
      (d : Desk MemoryLedger LockList) : Step d (Service.execute ctx operation source records d).2
  /-- A pass of the worker that tries actions in any way. -/
  | run {σ : Type} (perform : String → Json → σ → Except String Unit × σ) (s : σ)
      (d : Desk MemoryLedger LockList) : Step d (d.run perform s).2.2
  /-- Any flow but a watch may be canceled. -/
  | cancel (id : Uuid) (reason : String) (d : Desk MemoryLedger LockList)
      (hmain : ∀ f ∈ d.dispatch.engine.flows, f.id = id → f.watch = none) :
      Step d { d with dispatch := d.dispatch.cancel id reason }
  | changeCloud (cloud : Cloud) (d : Desk MemoryLedger LockList) : Step d { d with cloud := cloud }
  | changeClock (now : Instant) (d : Desk MemoryLedger LockList) : Step d { d with now := now }
  /-- Failures of the engine are switched on or off. -/
  | failEngine (submitBudget startBudget : Option Nat) (refusesWatches : Bool)
      (d : Desk MemoryLedger LockList) :
      Step d { d with dispatch := { d.dispatch with engine := { d.dispatch.engine with
        submitBudget := submitBudget, startBudget := startBudget,
        refusesWatches := refusesWatches } } }
  /-- Failures of the ledger are switched on or off. -/
  | failLedger (lostOnCreate : Nat) (refusesDeletes refusesUpdates : Bool)
      (d : Desk MemoryLedger LockList) :
      Step d { d with ledger := { d.ledger with
        lostOnCreate := lostOnCreate, refusesDeletes := refusesDeletes,
        refusesUpdates := refusesUpdates } }

/-- Desks that steps lead to from stores that were never used. -/
inductive Reachable : Desk MemoryLedger LockList → Prop where
  | opened (ledgerSeed engineSeed : Nat) (cloud : Cloud) (limits : Limits) (now : Instant) :
      Reachable (opened ledgerSeed engineSeed cloud limits now)
  | step {d d' : Desk MemoryLedger LockList} : Reachable d → Step d d' → Reachable d'

/-! ## The invariant -/

/-- The engine and the locks of a desk fit together. -/
def Sound (d : Desk MemoryLedger LockList) : Prop :=
  d.dispatch.Sound d.dispatch.engine.queue.waiting

/-- Previewing rows changes nothing but the number of listener queries. -/
theorem preview_eq (ctx : Context) (operation : Operation) (rows : List (List String))
    (d : Desk MemoryLedger LockList) :
    ∃ n, (Service.preview ctx operation rows d).2 = { d with lookups := n } := by
  unfold Service.preview
  split
  · exact ⟨d.lookups, rfl⟩
  · split
    · exact ⟨d.lookups, rfl⟩
    · exact Desk.validate_eq _ _ _ d

/-- Neither does validating records again. -/
theorem validate_again_eq (ctx : Context) (operation : Operation) (records : Json)
    (d : Desk MemoryLedger LockList) :
    ∃ n, (Service.validate ctx operation records d).2 = { d with lookups := n } := by
  unfold Service.validate
  split
  · exact ⟨d.lookups, rfl⟩
  · split
    · exact ⟨d.lookups, rfl⟩
    · exact Desk.validate_eq _ _ _ d

theorem mem_all_of_find {vendor : Vendor} {operation : Operation} {o : Offer}
    (h : Offer.find vendor operation = .ok o) : o ∈ Offer.all := by
  unfold Offer.find at h
  split at h
  · rename_i o' ho
    obtain rfl := Except.ok.inj h
    exact List.mem_of_find?_eq_some ho
  · exact nomatch h

theorem sound_execute (h : d.Sound) (ctx : Context) (operation : Operation) (source : Source)
    (records : Json) : (Service.execute ctx operation source records d).2.Sound := by
  unfold Service.execute
  split
  · exact h
  · rename_i o ho
    split
    · exact h
    · obtain ⟨ls, hls, hall⟩ := execute_launched (mem_all_of_find ho) h.fresh
      exact Dispatch.Sound.launched h hls hall

theorem sound_run {σ : Type} (h : d.Sound) (perform : String → Json → σ → Except String Unit × σ)
    (s : σ) : (d.run perform s).2.2.Sound := by
  obtain ⟨sum, s', d', hrun, hsound, hqueue⟩ := run_quiet h perform s
  rw [hrun, Sound, hqueue]
  exact hsound

theorem sound_cancel (h : d.Sound) (id : Uuid) (reason : String)
    (hmain : ∀ f ∈ d.dispatch.engine.flows, f.id = id → f.watch = none) :
    Sound { d with dispatch := d.dispatch.cancel id reason } := by
  unfold Sound Dispatch.cancel
  rcases @Engine.cancel_cases d.dispatch.engine id reason with hc | ⟨f, -, -, hc⟩
  · rw [hc]
    exact h
  · rw [hc]
    exact Dispatch.Sound.settle_main h (Engine.ends_cancelFlow reason) hmain

/-- **Whatever happens keeps the invariant.** -/
theorem Step.sound (hs : Step d d') (h : d.Sound) : d'.Sound := by
  cases hs with
  | preview ctx operation rows =>
    obtain ⟨n, he⟩ := preview_eq ctx operation rows d
    rwa [he]
  | validate ctx operation records =>
    obtain ⟨n, he⟩ := validate_again_eq ctx operation records d
    rwa [he]
  | execute ctx operation source records => exact sound_execute h ctx operation source records
  | run perform s => exact sound_run h perform s
  | cancel id reason _ hmain => exact sound_cancel h id reason hmain
  | changeCloud cloud => exact h
  | changeClock now => exact h
  | failEngine submitBudget startBudget refusesWatches =>
    exact Dispatch.Sound.congr h rfl rfl rfl rfl rfl
  | failLedger lostOnCreate refusesDeletes refusesUpdates => exact h

theorem Reachable.sound (h : Reachable d) : d.Sound := by
  induction h with
  | opened ledgerSeed engineSeed cloud limits now => exact .empty engineSeed
  | step _ hs ih => exact hs.sound ih

/-- Whatever happens keeps the identifiers of the ledger fresh. -/
theorem Step.fresh_ledger (hs : Step d d') (h : d.ledger.Fresh) : d'.ledger.Fresh := by
  cases hs with
  | preview ctx operation rows =>
    obtain ⟨n, he⟩ := preview_eq ctx operation rows d
    rwa [he]
  | validate ctx operation records =>
    obtain ⟨n, he⟩ := validate_again_eq ctx operation records d
    rwa [he]
  | execute ctx operation source records =>
    unfold Service.execute
    split
    · exact h
    · split
      · exact h
      · exact fresh_execute h
  | run perform s => exact h
  | cancel id reason _ hmain => exact h
  | changeCloud cloud => exact h
  | changeClock now => exact h
  | failEngine submitBudget startBudget refusesWatches => exact h
  | failLedger lostOnCreate refusesDeletes refusesUpdates =>
    exact h.of_subset rfl rfl rfl (List.Subset.refl _) (List.Subset.refl _)

/-- **In every desk that can be reached, no identifier that is in use is drawn again.** -/
theorem Reachable.fresh (h : Reachable d) : d.ledger.Fresh ∧ d.dispatch.Fresh := by
  refine ⟨?_, h.sound.dispatch_fresh⟩
  induction h with
  | opened ledgerSeed engineSeed cloud limits now => exact MemoryLedger.fresh_empty ledgerSeed
  | step _ hs ih => exact hs.fresh_ledger ih

end Desk

/-! ## Flows exclude each other -/

/-- Whether a flow works on a balancer and is not over. -/
def Flow.isOpenFor (lbId : String) (f : Flow) : Bool :=
  f.watch.isNone && !f.state.isTerminal && f.shared.lookup "lb_id" == some lbId

/-- Flows exclude each other by locks. -/
structure Dispatch.Exclusive (d : Dispatch LockList) : Prop where
  /-- At most one flow at a time works on a balancer. -/
  one : ∀ lbId, (d.engine.flows.filter (Flow.isOpenFor lbId)).length ≤ 1
  /-- Such a flow is pending, and holds the lock of the balancer. -/
  held : ∀ lbId, ∀ f ∈ d.engine.flows, f.isOpenFor lbId = true → f.state = .pending ∧
    ∃ k, d.locks.lock? (.balancer lbId) = some k ∧ k.owner = f.id
  /-- A lock belongs to a flow for its balancer. -/
  owned : ∀ k ∈ d.locks.entries, ∃ lbId, k.key = .balancer lbId ∧
    ∃ f ∈ d.engine.flows, f.id = k.owner ∧ f.watch = none ∧ f.shared.lookup "lb_id" = some lbId
  /-- A watch that is not over will release it. -/
  watched : ∀ k ∈ d.locks.entries, ∃ g ∈ d.engine.flows, g.state.isTerminal = false ∧
    ∃ x, g.watch = some x ∧ x.Guards k

theorem Flow.IsFor.lookup {f : Flow} {lbId : String} (h : f.IsFor lbId) :
    f.shared.lookup "lb_id" = some lbId := by
  rw [h]
  rfl

namespace Dispatch.Sound

variable {queue : List Uuid} {d : Dispatch LockList}

theorem lock?_eq (h : d.Sound queue) {k : ResourceLock} (hk : k ∈ d.locks.entries) :
    d.locks.lock? k.key = some k :=
  LockList.lock?_eq_some hk fun _ hk' he => List.inj_on_of_nodup_map h.keys_nodup hk' hk he

theorem held_of_isOpenFor (h : d.Sound queue) {lbId : String} {f : Flow}
    (hf : f ∈ d.engine.flows) (ho : f.isOpenFor lbId = true) : f.state = .pending ∧
      ∃ k ∈ d.locks.entries, k.key = .balancer lbId ∧ k.owner = f.id := by
  simp only [Flow.isOpenFor, Bool.and_eq_true, Option.isNone_iff_eq_none, Bool.not_eq_true',
    beq_iff_eq] at ho
  obtain ⟨⟨hmain, hopen⟩, hname⟩ := ho
  obtain ⟨hst, lbId', hfor, k, hk, hkey, howner⟩ := h.held f hf hmain hopen
  obtain rfl := Option.some.inj (hfor.lookup.symm.trans hname)
  exact ⟨hst, k, hk, hkey, howner⟩

theorem exclusive (h : d.Sound queue) : d.Exclusive := by
  constructor
  case one =>
    intro lbId
    have hnodup : d.engine.flows.Nodup := .of_map _ h.ids_nodup
    refine length_le_one_of_nodup (hnodup.filter _) fun f hf g hg => ?_
    obtain ⟨hf, hfo⟩ := List.mem_filter.mp hf
    obtain ⟨hg, hgo⟩ := List.mem_filter.mp hg
    obtain ⟨-, k, hk, hkey, howner⟩ := h.held_of_isOpenFor hf hfo
    obtain ⟨-, k', hk', hkey', howner'⟩ := h.held_of_isOpenFor hg hgo
    obtain rfl := List.inj_on_of_nodup_map h.keys_nodup hk hk' (hkey.trans hkey'.symm)
    exact h.eq_of_id hf hg (howner.symm.trans howner')
  case held =>
    intro lbId f hf ho
    obtain ⟨hst, k, hk, hkey, howner⟩ := h.held_of_isOpenFor hf ho
    exact ⟨hst, k, hkey ▸ h.lock?_eq hk, howner⟩
  case owned =>
    intro k hk
    obtain ⟨lbId, hkey, f, hf, hmain, howner, hfor⟩ := h.owned k hk
    exact ⟨lbId, hkey, f, hf, howner, hmain, hfor.lookup⟩
  case watched => exact h.guarded

end Dispatch.Sound

namespace Desk

variable {d : Desk MemoryLedger LockList}

/-- **In every desk that can be reached, flows exclude each other by locks.** -/
theorem reachable_exclusive (h : Reachable d) : d.dispatch.Exclusive := h.sound.exclusive

/-- A desk at which an import for two balancers is under way. -/
def busy : Desk MemoryLedger LockList :=
  (Service.execute sampleContext .createListener .excel (Importable.encodeAll sampleRecords)
    (opened 0 0 sampleCloud .standard 0)).2

theorem reachable_busy : Reachable busy := (Reachable.opened _ _ _ _ _).step (.execute _ _ _ _ _)

theorem exclusive_busy : busy.dispatch.locks.entries.map ResourceLock.owner = [⟨2⟩, ⟨6⟩] ∧
    busy.dispatch.Exclusive :=
  ⟨by decide +kernel, reachable_exclusive reachable_busy⟩

/-- **From every desk that can be reached, a pass of the worker succeeds, whatever becomes of the
actions that it tries, and leaves no locks, an empty queue, and every flow over.** -/
theorem reachable_run_quiet (h : Reachable d) {σ : Type}
    (perform : String → Json → σ → Except String Unit × σ) (s : σ) :
    ∃ sum s' d', d.run perform s = (.ok sum, s', d') ∧ d'.dispatch.locks = .empty ∧
      d'.dispatch.engine.queue = .empty ∧
      ∀ f ∈ d'.dispatch.engine.flows, f.state.isTerminal = true := by
  obtain ⟨sum, s', d', hrun, hsound, hqueue⟩ := run_quiet h.sound perform s
  obtain ⟨hover, hlocks⟩ := hsound.quiet
  exact ⟨sum, s', d', hrun, hlocks, hqueue, hover⟩

/-- Two flows wait with their watches, and each holds a lock. A worker whose actions all fail leaves
nothing of this, either. -/
theorem run_quiet_busy :
    busy.dispatch.locks.entries.map (fun k => (k.key, k.owner)) =
      [(.balancer "lb-1", ⟨2⟩), (.balancer "lb-2", ⟨6⟩)] ∧
    busy.dispatch.engine.queue.waiting = [⟨3⟩, ⟨7⟩, ⟨2⟩, ⟨6⟩] ∧
    busy.dispatch.engine.flows.map (fun f => (f.id, f.watch.map Watch.flow, f.state)) =
      [(⟨2⟩, none, .pending), (⟨3⟩, some ⟨2⟩, .pending), (⟨6⟩, none, .pending),
        (⟨7⟩, some ⟨6⟩, .pending)] ∧
    ∃ sum s' d', busy.run (fun _ _ tries => (.error "refused", tries + 1)) 0 = (.ok sum, s', d') ∧
      d'.dispatch.locks = .empty ∧ d'.dispatch.engine.queue = .empty ∧
      ∀ f ∈ d'.dispatch.engine.flows, f.state.isTerminal = true :=
  ⟨by decide +kernel, by decide +kernel, by decide +kernel,
    reachable_run_quiet reachable_busy _ _⟩

end Desk

end BalancerImport
