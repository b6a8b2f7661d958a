import BalancerImport.Proofs.Plan.Launch

/-!
# From stage to stage

One lemma for each request by which the submission of plans moves a launch to its next stage: the
dispatch is again that of the beginning with launches added.

* `Launched.submit`, `Launched.watch`, `Launched.acquire`: a plan gets its flow, watch and lock;
* `Launched.cancel`, `Launched.retire`: a launch is taken back, without or with its lock;
* `Launched.start`, `Launched.start_error`: its flow is started, or not.
-/

namespace BalancerImport.Launched

variable {now : Instant} {base d d' : Dispatch LockList} {ls : List Launch} {l : Launch}

/-- Budgets and refusals of the engine do not matter. -/
theorem congr (h : Launched now base ls d) (hs : d'.engine.seed = d.engine.seed)
    (hf : d'.engine.flowsDrawn = d.engine.flowsDrawn)
    (hw : d'.engine.watchesDrawn = d.engine.watchesDrawn)
    (hflows : d'.engine.flows = d.engine.flows) (hqueue : d'.engine.queue = d.engine.queue)
    (hlocks : d'.locks = d.locks) : Launched now base ls d' :=
  ⟨h.drawn.congr hs hf hw, hflows.trans h.flows, hqueue ▸ h.queue, hlocks ▸ h.locks, h.apart,
    h.keys_nodup, h.watched⟩

/-- The flow of a launch is brought to a stage at which it is not started. -/
theorem restage (h : Launched now base ls d) (hl : l ∈ ls) {stage : Stage}
    (hs : l.stage ≠ .started) (hstage : stage ≠ .started) (hholds : stage.holds = false)
    (hdrawn : Launch.Drawn base.engine d'.engine ls)
    (hqueue : d'.engine.queue = d.engine.queue)
    (hflows : d'.engine.flows = base.engine.flows ++
      (ls.map (Launch.assign [l.flow] fun _ => stage)).flatMap Launch.flows)
    (hlocks : d'.locks.entries = base.locks.entries ++
      (ls.map (Launch.assign [l.flow] fun _ => stage)).filterMap (Launch.lock? now))
    (hsub : ((ls.map (Launch.assign [l.flow] fun _ => stage)).filterMap (Launch.lock? now)).Sublist
      (ls.filterMap (Launch.lock? now))) :
    Launched now base (ls.map (Launch.assign [l.flow] fun _ => stage)) d' := by
  obtain ⟨begun, hq, hbegun⟩ := h.queue
  refine ⟨hdrawn.assign _ _, hflows, ⟨begun, ?_, fun id => ?_⟩, hlocks,
    fun k hk => h.apart k (hsub.subset hk), h.keys_nodup.sublist (hsub.map _), ?_⟩
  · rw [hqueue, hq]
    simp [List.filterMap_map]
  · rw [hbegun]
    constructor
    · rintro ⟨l', hl', hst, rfl⟩
      rcases h.drawn.assign_cases hl hl' stage with ⟨rfl, -⟩ | ⟨-, hassign⟩
      · exact absurd hst hs
      · exact ⟨l', List.mem_map.mpr ⟨l', hl', hassign⟩, hst, rfl⟩
    · rintro ⟨_, hm, hst, rfl⟩
      obtain ⟨l', hl', rfl⟩ := List.mem_map.mp hm
      rcases h.drawn.assign_cases hl hl' stage with ⟨rfl, hassign⟩ | ⟨-, hassign⟩
      · rw [hassign] at hst
        exact absurd hst hstage
      · rw [hassign] at hst ⊢
        exact ⟨l', hl', hst, rfl⟩
  · intro _ hm hh
    obtain ⟨l', hl', rfl⟩ := List.mem_map.mp hm
    rcases h.drawn.assign_cases hl hl' stage with ⟨rfl, hassign⟩ | ⟨-, hassign⟩
    · rw [hassign] at hh
      exact absurd hh (by simp [hholds])
    · rw [hassign] at hh ⊢
      exact h.watched l' hl' hh

/-- A plan gets a dormant flow. -/
theorem submit (h : Launched now base ls d) {p : Plan} {flow : Uuid} {engine : Engine}
    (hok : d.engine.submit p.flowName p.tasks p.shared = (.ok flow, engine)) :
    Launched now base (ls ++ [⟨p, flow, none, .submitted⟩]) { d with engine := engine } := by
  obtain ⟨rfl, budget, rfl⟩ := Engine.submit_ok hok
  obtain ⟨begun, hq, hbegun⟩ := h.queue
  refine ⟨h.drawn.snoc (by rfl) (by rfl) (by rfl) p .submitted, ?_, ⟨begun, ?_, fun id => ?_⟩,
    ?_, ?_, ?_, ?_⟩
  · simp [h.flows, Launch.flows, Launch.main, Launch.dormant, Stage.apply]
  · simpa using hq
  · simp [hbegun]
  · simpa [Launch.lock?, Stage.holds] using h.locks
  · simpa [Launch.lock?, Stage.holds] using h.apart
  · simpa [Launch.lock?, Stage.holds] using h.keys_nodup
  · exact List.forall_mem_append.mpr ⟨h.watched, List.forall_mem_singleton.mpr fun hh =>
      absurd hh Bool.false_ne_true⟩

/-- The last launch gets its watch. -/
theorem watch (h : Launched now base (ls ++ [l]) d) (hw : l.watch = none)
    (hnone : ∀ l' ∈ ls ++ [l], l'.stage ≠ .started) {w : Uuid} {engine : Engine}
    (hok : d.engine.submitWatch (l.plan.watch l.flow) = (.ok w, engine)) :
    Launched now base (ls ++ [{ l with watch := some w }]) { d with engine := engine } := by
  obtain ⟨rfl, rfl⟩ := Engine.submitWatch_ok hok
  obtain ⟨begun, hq, hbegun⟩ := h.queue
  have hbegun : begun = [] := List.eq_nil_iff_forall_not_mem.mpr fun id hid => by
    obtain ⟨l', hl', hst, -⟩ := (hbegun id).mp hid
    exact hnone l' hl' hst
  subst hbegun
  obtain ⟨hothers, hlast⟩ := List.forall_mem_append.mp hnone
  have hlast := List.forall_mem_singleton.mp hlast
  have hlocks : (ls ++ [{ l with watch := some (Uuid.drawn d.engine.seed .watch
      d.engine.watchesDrawn) }]).filterMap (Launch.lock? now) =
        (ls ++ [l]).filterMap (Launch.lock? now) := by
    simp only [List.filterMap_append]
    rfl
  refine ⟨h.drawn.watch_last hw (by rfl) (by rfl) (by rfl), ?_, ⟨[], ?_, fun id => ?_⟩,
    ?_, ?_, ?_, ?_⟩
  · simp [h.flows, Launch.flows, Launch.main, Launch.dormant, hw]
  · simp [WorkQueue.enqueue, hq, hw]
  · have hstill : ∀ l' ∈ ls ++ [{ l with watch := some (Uuid.drawn d.engine.seed .watch
        d.engine.watchesDrawn) }], l'.stage ≠ .started :=
      List.forall_mem_append.mpr ⟨hothers, List.forall_mem_singleton.mpr hlast⟩
    simp only [List.not_mem_nil, false_iff, not_exists, not_and]
    exact fun l' hl' hst => absurd hst (hstill l' hl')
  · exact h.locks.trans (by rw [hlocks])
  · exact hlocks ▸ h.apart
  · exact hlocks ▸ h.keys_nodup
  · exact List.forall_mem_append.mpr ⟨(List.forall_mem_append.mp h.watched).1,
      List.forall_mem_singleton.mpr fun _ => rfl⟩

/-- The last launch gets its lock. -/
theorem acquire (h : Launched now base (ls ++ [l]) d) (hs : l.stage = .submitted)
    (hw : l.watch.isSome) {locks : LockList}
    (hok : Lock.acquire now l.plan.key l.flow l.plan.purpose d.locks = (.ok (), locks)) :
    Launched now base (ls ++ [{ l with stage := .prepared }]) { d with locks := locks } := by
  obtain ⟨hfree, rfl⟩ := Lock.acquire_ok hok
  obtain ⟨begun, hq, hbegun⟩ := h.queue
  have hold : (ls ++ [l]).filterMap (Launch.lock? now) = ls.filterMap (Launch.lock? now) := by
    simp [Launch.lock?, hs, Stage.holds]
  have hnew : (ls ++ [{ l with stage := .prepared }]).filterMap (Launch.lock? now) =
      ls.filterMap (Launch.lock? now) ++ [l.lock now] := by
    simp [Launch.lock?, Launch.lock, Stage.holds]
  have hwatch : (ls ++ [{ l with stage := .prepared }]).filterMap Launch.watch =
      (ls ++ [l]).filterMap Launch.watch := by
    simp only [List.filterMap_append]
    rfl
  have hlocks := h.locks
  have hapart := h.apart
  have hkeys := h.keys_nodup
  rw [hold] at hlocks hapart hkeys
  refine ⟨?_, ?_, ⟨begun, ?_, fun id => ?_⟩, ?_, ?_, ?_, ?_⟩
  · exact h.drawn.of_map (by simp) hwatch
  · simpa [Launch.flows, Launch.main, Launch.dormant, Stage.apply, hs] using h.flows
  · rw [hwatch, hq]
  · rw [hbegun]
    simp [hs]
  · rw [hnew, hlocks, List.append_assoc]
    rfl
  · rw [hnew]
    intro k hk b hb
    rcases List.mem_append.mp hk with hk | hk
    · exact hapart k hk b hb
    · obtain rfl := List.mem_singleton.mp hk
      exact hfree b (hlocks ▸ List.mem_append_left _ hb)
  · rw [hnew, List.map_append, List.nodup_append]
    refine ⟨hkeys, by simp, fun a ha b hb he => ?_⟩
    obtain ⟨k, hk, rfl⟩ := List.mem_map.mp ha
    obtain rfl := List.mem_singleton.mp hb
    exact hfree k (hlocks ▸ List.mem_append_right _ hk) he
  · exact List.forall_mem_append.mpr ⟨(List.forall_mem_append.mp h.watched).1,
      List.forall_mem_singleton.mpr fun _ => hw⟩

/-- A dormant flow of a launch is canceled. -/
theorem cancel_engine (h : Launched now base ls d) (hb : base.engine.Fresh) (hl : l ∈ ls)
    (hs : l.stage = .submitted ∨ l.stage = .prepared) (reason : String) :
    (d.cancel l.flow reason).engine = d.engine.modify l.flow (Engine.cancelFlow reason) ∧
    (d.cancel l.flow reason).engine.flows = base.engine.flows ++
      (ls.map (Launch.assign [l.flow] fun _ => .retired reason)).flatMap Launch.flows := by
  have hmain : l.main = l.dormant := by
    rcases hs with hs | hs <;> simp [Launch.main, hs, Stage.apply]
  have hcancel : (d.cancel l.flow reason).engine =
      d.engine.modify l.flow (Engine.cancelFlow reason) :=
    Engine.cancel_open (h.find?_main hb hl) (by rw [hmain]; rfl)
  refine ⟨hcancel, ?_⟩
  rw [hcancel]
  exact h.modify_flows hb hl (by rw [hmain]; rfl)

/-- A launch without lock is retired. -/
theorem cancel (h : Launched now base ls d) (hb : base.engine.Fresh) (hl : l ∈ ls)
    (hs : l.stage = .submitted) (reason : String) :
    Launched now base (ls.map (Launch.assign [l.flow] fun _ => .retired reason))
      (d.cancel l.flow reason) := by
  obtain ⟨hengine, hflows⟩ := h.cancel_engine hb hl (.inl hs) reason
  have hlocks : (ls.map (Launch.assign [l.flow] fun _ => .retired reason)).filterMap
      (Launch.lock? now) = ls.filterMap (Launch.lock? now) := by
    rw [List.filterMap_map]
    refine List.filterMap_congr fun l' hl' => ?_
    rw [Function.comp_apply]
    rcases h.drawn.assign_cases hl hl' (.retired reason) with ⟨rfl, hassign⟩ | ⟨-, hassign⟩
    · rw [hassign, Launch.lock?_of_not_holds (by rfl),
        Launch.lock?_of_not_holds (by rw [hs]; rfl)]
    · rw [hassign]
  refine h.restage hl (by simp [hs]) (by simp) rfl ?_ ?_ hflows ?_ ?_
  · rw [hengine]
    exact h.drawn.congr rfl rfl rfl
  · rw [hengine]
    rfl
  · rw [hlocks]
    exact h.locks
  · rw [hlocks]

/-- A launch with a lock is retired, and its lock released. -/
theorem retire (h : Launched now base ls d) (hb : base.engine.Fresh) (hl : l ∈ ls)
    (hs : l.stage = .prepared) (reason : String) :
    Launched now base (ls.map (Launch.assign [l.flow] fun _ => .retired reason))
      { d.cancel l.flow reason with
        locks := (Lock.release l.plan.key l.flow (d.cancel l.flow reason).locks).2 } := by
  obtain ⟨hengine, hflows⟩ := h.cancel_engine hb hl (.inr hs) reason
  have hholds : l.stage.holds = true := by rw [hs]; rfl
  have hmem : l.lock now ∈ ls.filterMap (Launch.lock? now) :=
    List.mem_filterMap.mpr ⟨l, hl, Launch.lock?_of_holds hholds⟩
  have hlocks : (ls.map (Launch.assign [l.flow] fun _ => .retired reason)).filterMap
      (Launch.lock? now) = (ls.filterMap (Launch.lock? now)).filter fun k =>
        !LockList.holds l.plan.key l.flow k := by
    rw [List.filterMap_map, List.filter_filterMap]
    refine List.filterMap_congr fun l' hl' => ?_
    rw [Function.comp_apply]
    rcases h.drawn.assign_cases hl hl' (.retired reason) with ⟨rfl, hassign⟩ | ⟨hne, hassign⟩
    · rw [hassign, Launch.lock?_of_not_holds (by rfl), Launch.lock?_of_holds hholds]
      simp [Option.filter_some, LockList.holds, Launch.lock]
    · rw [hassign]
      cases hk : l'.lock? now with
      | none => rfl
      | some k =>
        obtain ⟨-, -, ho⟩ := Launch.lock?_eq_some hk
        simp [Option.filter_some, LockList.holds, ho, hne]
  have hbase : (base.locks.entries.filter fun k => !LockList.holds l.plan.key l.flow k) =
      base.locks.entries := by
    refine List.filter_eq_self.mpr fun b hb => ?_
    have hne : b.key ≠ l.plan.key := h.apart _ hmem b hb
    simp [LockList.holds, hne]
  refine h.restage hl (by simp [hs]) (by simp) rfl ?_ ?_ hflows ?_ ?_
  · exact h.drawn.congr (by rw [hengine]; rfl) (by rw [hengine]; rfl) (by rw [hengine]; rfl)
  · show (d.cancel l.flow reason).engine.queue = _
    rw [hengine]
    rfl
  · rw [Lock.release_snd]
    show d.locks.entries.filter _ = _
    rw [h.locks, List.filter_append, hbase, hlocks]
  · rw [hlocks]
    exact List.filter_sublist

/-- The flow of a launch is started. -/
theorem start (h : Launched now base ls d) (hb : base.engine.Fresh) (hl : l ∈ ls)
    (hs : l.stage = .prepared) {engine : Engine} (hok : d.engine.start l.flow = (.ok (), engine)) :
    Launched now base (ls.map (Launch.assign [l.flow] fun _ => .started))
      { d with engine := engine } := by
  obtain ⟨budget, rfl⟩ := Engine.start_ok hok
  obtain ⟨begun, hq, hbegun⟩ := h.queue
  have hmain : l.main = l.dormant := by simp [Launch.main, hs, Stage.apply]
  have hlock : ∀ l' ∈ ls, (l'.assign [l.flow] fun _ => .started).lock? now = l'.lock? now := by
    intro l' hl'
    rcases h.drawn.assign_cases hl hl' .started with ⟨rfl, hassign⟩ | ⟨-, hassign⟩
    · rw [hassign, Launch.lock?_of_holds (by rfl), Launch.lock?_of_holds (by rw [hs]; rfl)]
      rfl
    · rw [hassign]
  have hlocks : (ls.map (Launch.assign [l.flow] fun _ => .started)).filterMap (Launch.lock? now) =
      ls.filterMap (Launch.lock? now) := by
    rw [List.filterMap_map]
    exact List.filterMap_congr hlock
  refine ⟨(h.drawn.congr (by rfl) (by rfl) (by rfl)).assign _ _, ?_,
    ⟨begun ++ [l.flow], ?_, fun id => ?_⟩, ?_, hlocks ▸ h.apart, hlocks ▸ h.keys_nodup, ?_⟩
  · exact h.modify_flows hb hl (by rw [hmain]; rfl)
  · simp [WorkQueue.enqueue, hq, List.filterMap_map]
  · rw [List.mem_append, hbegun, List.mem_singleton]
    constructor
    · rintro (⟨l', hl', hst, rfl⟩ | rfl)
      · refine ⟨_, List.mem_map_of_mem hl', ?_, Launch.assign_flow l'⟩
        rcases h.drawn.assign_cases hl hl' .started with ⟨-, hassign⟩ | ⟨-, hassign⟩
        · rw [hassign]
        · rw [hassign, hst]
      · exact ⟨_, List.mem_map_of_mem hl, by rw [Launch.assign_of_mem (by simp)],
          Launch.assign_flow l⟩
    · rintro ⟨_, hm, hst, rfl⟩
      obtain ⟨l', hl', rfl⟩ := List.mem_map.mp hm
      rw [Launch.assign_flow]
      rcases h.drawn.assign_cases hl hl' .started with ⟨rfl, -⟩ | ⟨-, hassign⟩
      · exact .inr rfl
      · rw [hassign] at hst
        exact .inl ⟨l', hl', hst, rfl⟩
  · rw [hlocks]
    exact h.locks
  · intro _ hm hh
    obtain ⟨l', hl', rfl⟩ := List.mem_map.mp hm
    rw [Launch.assign_watch]
    rcases h.drawn.assign_cases hl hl' .started with ⟨rfl, -⟩ | ⟨-, hassign⟩
    · exact h.watched l' hl' (by rw [hs]; rfl)
    · rw [hassign] at hh
      exact h.watched l' hl' hh

/-- A refused start only takes from the budget. -/
theorem start_error (h : Launched now base ls d) {id : Uuid} {e : FlowError} {engine : Engine}
    (herr : d.engine.start id = (.error e, engine)) :
    Launched now base ls { d with engine := engine } := by
  obtain ⟨budget, rfl⟩ := Engine.start_error herr
  exact h.congr rfl rfl rfl rfl rfl rfl

end BalancerImport.Launched
