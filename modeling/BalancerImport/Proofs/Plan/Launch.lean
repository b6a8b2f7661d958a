import BalancerImport.Plan.Submission
import BalancerImport.Proofs.Lists
import BalancerImport.Proofs.Flow.Requests
import BalancerImport.Proofs.Lock.Requests

/-!
# Launches

A launch is a plan with the flow and the watch that were drawn for it, and how far it got. The
requests that an import makes while it submits plans move launches from stage to stage, and the
engine and the locks at any moment are those of the beginning with what the launches add.

* `Flow.IsFor`: a flow and its balancer;
* `Stage`, `Launch`; `Launch.flows`, `Launch.lock?`: what a launch adds to the engine and the locks;
* `Launch.assign`: launches at other stages;
* `Launch.Drawn`: the identifiers of launches were drawn, each once;
* `Dispatch.Fresh`: neither flows nor owners of locks have an identifier that is still to be drawn;
* `Launched`: a dispatch is what it was at the beginning, with launches added;
* `Launched.eq_main`: only the flow of a launch has its identifier; `Launched.modify_flows`: what
  changing that flow does.
-/

namespace BalancerImport

/-- Whether the tasks of a flow work on a balancer. -/
def Flow.IsFor (f : Flow) (lbId : String) : Prop := f.shared = [("lb_id", lbId)]

/-! ## Stages -/

/-- How far the submission of a plan got. -/
inductive Stage where
  /-- The flow is dormant, without lock. -/
  | submitted
  /-- The flow is dormant and has its lock. -/
  | prepared
  | started
  /-- The flow is canceled, without lock. -/
  | retired (reason : String)

namespace Stage

/-- Whether the lock of a flow is held at a stage. -/
def holds : Stage → Bool
  | prepared => true
  | started => true
  | _ => false

/-- A dormant flow brought to a stage. -/
def apply : Stage → Flow → Flow
  | started, f => { f with state := .pending }
  | retired reason, f => Engine.cancelFlow reason f
  | _, f => f

/-- Whether the submission of a plan is over at a stage. -/
def IsFinal (s : Stage) : Prop := s = started ∨ ∃ reason, s = retired reason

@[simp] theorem apply_id (s : Stage) (f : Flow) : (s.apply f).id = f.id := by cases s <;> rfl
@[simp] theorem apply_watch (s : Stage) (f : Flow) : (s.apply f).watch = f.watch := by
  cases s <;> rfl
@[simp] theorem apply_shared (s : Stage) (f : Flow) : (s.apply f).shared = f.shared := by
  cases s <;> rfl

end Stage

/-! ## Launches -/

/-- A plan on its way: its flow, its watch once there is one, and its stage. -/
structure Launch where
  plan : Plan
  flow : Uuid
  watch : Option Uuid
  stage : Stage

namespace Launch

/-- The flow of a launch as it was submitted. -/
def dormant (l : Launch) : Flow :=
  Engine.dormantFlow l.flow l.plan.flowName l.plan.tasks l.plan.shared

/-- The flow of a launch. -/
def main (l : Launch) : Flow := l.stage.apply l.dormant

/-- The flow of a launch, and its watch. -/
def flows (l : Launch) : List Flow :=
  l.main :: l.watch.toList.map fun w => Engine.watchFlow w (l.plan.watch l.flow)

/-- The lock that is meant for the flow of a launch, from a moment on. -/
def lock (now : Instant) (l : Launch) : ResourceLock :=
  { key := l.plan.key, owner := l.flow, purpose := l.plan.purpose, createdAt := now }

/-- The lock of a launch while it is held. -/
def lock? (now : Instant) (l : Launch) : Option ResourceLock :=
  if l.stage.holds then some (l.lock now) else none

/-- What is handed out for a launch that has a watch. -/
def receipt? (l : Launch) : Option Submitted :=
  l.watch.map fun w =>
    { flow := l.flow, watch := w, key := l.plan.key, itemActions := l.plan.itemActions }

/-- A launch whose stage is set anew if its flow is among some flows. -/
def assign (ids : List Uuid) (σ : Uuid → Stage) (l : Launch) : Launch :=
  if l.flow ∈ ids then { l with stage := σ l.flow } else l

variable {ids : List Uuid} {σ : Uuid → Stage} {now : Instant}

@[simp] theorem main_id (l : Launch) : l.main.id = l.flow := by
  simp [main, dormant, Engine.dormantFlow]
@[simp] theorem main_watch (l : Launch) : l.main.watch = none := by
  simp [main, dormant, Engine.dormantFlow]
@[simp] theorem main_shared (l : Launch) : l.main.shared = l.plan.shared := by
  simp [main, dormant, Engine.dormantFlow]

theorem main_isFor (l : Launch) : l.main.IsFor l.plan.lbId := main_shared l

@[simp] theorem assign_flow (l : Launch) : (l.assign ids σ).flow = l.flow := by
  unfold assign; split <;> rfl
@[simp] theorem assign_watch (l : Launch) : (l.assign ids σ).watch = l.watch := by
  unfold assign; split <;> rfl
@[simp] theorem assign_plan (l : Launch) : (l.assign ids σ).plan = l.plan := by
  unfold assign; split <;> rfl
@[simp] theorem assign_receipt? (l : Launch) : (l.assign ids σ).receipt? = l.receipt? := by
  simp [receipt?]
@[simp] theorem assign_nil (l : Launch) : l.assign [] σ = l := by simp [assign]

theorem assign_of_mem {l : Launch} (h : l.flow ∈ ids) :
    l.assign ids σ = { l with stage := σ l.flow } :=
  if_pos h

theorem assign_of_not_mem {l : Launch} (h : l.flow ∉ ids) : l.assign ids σ = l := if_neg h

/-- Two assignments to different flows are one. -/
theorem assign_assign {id : Uuid} {stage : Stage} (hid : id ∉ ids) (l : Launch) :
    (l.assign [id] fun _ => stage).assign ids σ =
      l.assign (id :: ids) fun u => if u = id then stage else σ u := by
  by_cases h : l.flow = id
  · rw [assign_of_not_mem (by simpa [h] using hid), assign_of_mem (by simp [h]),
      assign_of_mem (by simp [h])]
    simp [h]
  · have hone : l.flow ∉ [id] := by simpa using h
    rw [assign_of_not_mem hone]
    by_cases hm : l.flow ∈ ids
    · rw [assign_of_mem hm, assign_of_mem (List.mem_cons_of_mem _ hm), if_neg h]
    · rw [assign_of_not_mem hm, assign_of_not_mem (by simp [h, hm])]

theorem lock?_eq_some {l : Launch} {k : ResourceLock} (h : l.lock? now = some k) :
    l.stage.holds = true ∧ k.key = l.plan.key ∧ k.owner = l.flow := by
  unfold lock? at h
  split at h
  · rename_i hs
    obtain rfl := Option.some.inj h
    exact ⟨hs, rfl, rfl⟩
  · simp at h

theorem lock?_of_holds {l : Launch} (h : l.stage.holds = true) : l.lock? now = some (l.lock now) :=
  if_pos h

theorem lock?_of_not_holds {l : Launch} (h : l.stage.holds = false) : l.lock? now = none := by
  simp [lock?, h]

theorem mem_flows {l : Launch} {f : Flow} : f ∈ l.flows ↔
    f = l.main ∨ ∃ w, l.watch = some w ∧ f = Engine.watchFlow w (l.plan.watch l.flow) := by
  cases hw : l.watch <;> simp [flows, hw]

theorem eq_of_receipt? {l : Launch} {s : Submitted} (h : l.receipt? = some s) :
    s.flow = l.flow ∧ l.watch = some s.watch ∧ s.key = l.plan.key ∧
      s.itemActions = l.plan.itemActions := by
  obtain ⟨w, hw, rfl⟩ := Option.map_eq_some_iff.mp h
  exact ⟨rfl, hw, rfl, rfl⟩

/-- The flow of a launch has the tasks of its plan at every stage. -/
theorem map_task (l : Launch) : l.main.tasks.map TaskRecord.task = l.plan.tasks := by
  have hdormant : l.dormant.tasks.map TaskRecord.task = l.plan.tasks := by
    simp [dormant, Engine.dormantFlow, Task.start, Function.comp_def]
  have hcancel : ∀ t : TaskRecord, (Engine.cancelTask t).task = t.task := by
    intro t
    unfold Engine.cancelTask
    split <;> rfl
  unfold main
  cases l.stage with
  | retired reason =>
    show (l.dormant.tasks.map Engine.cancelTask).map TaskRecord.task = _
    rw [List.map_map, ← hdormant]
    exact List.map_congr_left fun t _ => hcancel t
  | submitted | prepared | started => exact hdormant

/-- What was handed out for launches has in common with them what each of it has. -/
theorem map_of_receipts {α : Type} {f : Launch → α} {g : Submitted → α}
    (hfg : ∀ l s, l.receipt? = some s → g s = f l) : ∀ {ls : List Launch} {ss : List Submitted},
    ls.map receipt? = ss.map some → ss.map g = ls.map f
  | [], [], _ => rfl
  | [], _ :: _, h => by simp at h
  | _ :: _, [], h => by simp at h
  | l :: ls, s :: ss, h => by
    simp only [List.map_cons, List.cons.injEq] at h ⊢
    exact ⟨hfg l s h.1, map_of_receipts hfg h.2⟩

theorem map_flow_of_receipts {ls : List Launch} {ss : List Submitted}
    (h : ls.map receipt? = ss.map some) : ss.map Submitted.flow = ls.map Launch.flow :=
  map_of_receipts (fun _ _ hr => (eq_of_receipt? hr).1) h

end Launch

/-! ## The identifiers of launches -/

/-- The identifiers of launches were drawn, each once, while the engine `base` became `e`. -/
structure Launch.Drawn (base e : Engine) (ls : List Launch) : Prop where
  seed : e.seed = base.seed
  flow_le : base.flowsDrawn ≤ e.flowsDrawn
  watch_le : base.watchesDrawn ≤ e.watchesDrawn
  flow : ∀ id ∈ ls.map Launch.flow, ∃ n, base.flowsDrawn ≤ n ∧ n < e.flowsDrawn ∧
    id = Uuid.drawn base.seed .flow n
  watch : ∀ w ∈ ls.filterMap Launch.watch, ∃ n, base.watchesDrawn ≤ n ∧ n < e.watchesDrawn ∧
    w = Uuid.drawn base.seed .watch n
  flow_nodup : (ls.map Launch.flow).Nodup
  watch_nodup : (ls.filterMap Launch.watch).Nodup

namespace Launch.Drawn

variable {base e e' : Engine} {ls : List Launch} {l l' : Launch}

theorem nil : Drawn base base [] :=
  ⟨rfl, Nat.le_refl _, Nat.le_refl _, by simp, by simp, by simp, by simp⟩

/-- Only the counters of the engine matter. -/
theorem congr (h : Drawn base e ls) (hs : e'.seed = e.seed) (hf : e'.flowsDrawn = e.flowsDrawn)
    (hw : e'.watchesDrawn = e.watchesDrawn) : Drawn base e' ls :=
  ⟨hs.trans h.seed, hf ▸ h.flow_le, hw ▸ h.watch_le, hf ▸ h.flow, hw ▸ h.watch, h.flow_nodup,
    h.watch_nodup⟩

/-- Only the flows and watches of the launches matter. -/
theorem of_map {ls' : List Launch} (h : Drawn base e ls)
    (hf : ls'.map Launch.flow = ls.map Launch.flow)
    (hw : ls'.filterMap Launch.watch = ls.filterMap Launch.watch) : Drawn base e ls' :=
  ⟨h.seed, h.flow_le, h.watch_le, hf ▸ h.flow, hw ▸ h.watch, hf ▸ h.flow_nodup, hw ▸ h.watch_nodup⟩

theorem assign (h : Drawn base e ls) (ids : List Uuid) (σ : Uuid → Stage) :
    Drawn base e (ls.map (Launch.assign ids σ)) :=
  h.of_map (by simp [Function.comp_def]) (by simp [List.filterMap_map])

theorem eq_of_flow (h : Drawn base e ls) (hl : l ∈ ls) (hl' : l' ∈ ls) (he : l.flow = l'.flow) :
    l = l' := List.inj_on_of_nodup_map h.flow_nodup hl hl' he

/-- One launch gets a new stage, all others are as before. -/
theorem assign_cases (h : Drawn base e ls) (hl : l ∈ ls) (hl' : l' ∈ ls) (stage : Stage) :
    l' = l ∧ (l'.assign [l.flow] fun _ => stage) = { l with stage := stage } ∨
      l'.flow ≠ l.flow ∧ (l'.assign [l.flow] fun _ => stage) = l' := by
  by_cases he : l'.flow = l.flow
  · obtain rfl := h.eq_of_flow hl' hl he
    exact .inl ⟨rfl, assign_of_mem (List.mem_singleton_self _)⟩
  · exact .inr ⟨he, assign_of_not_mem (by simpa using he)⟩

theorem flow_ne_watch (h : Drawn base e ls) (hl : l ∈ ls) (hl' : l' ∈ ls) {w : Uuid}
    (hw : l'.watch = some w) : w ≠ l.flow := by
  obtain ⟨n, -, -, hn⟩ := h.flow _ (List.mem_map_of_mem hl)
  obtain ⟨m, -, -, hm⟩ := h.watch w (List.mem_filterMap.mpr ⟨l', hl', hw⟩)
  rw [hn, hm]
  exact fun he => nomatch (Uuid.drawn_inj.mp he).1

/-- The next flow to be drawn belongs to no launch. -/
theorem next_flow (h : Drawn base e ls) :
    Uuid.drawn e.seed .flow e.flowsDrawn ∉ ls.map Launch.flow := by
  rw [h.seed]
  intro hm
  obtain ⟨n, -, hlt, hn⟩ := h.flow _ hm
  obtain ⟨-, rfl⟩ := Uuid.drawn_inj.mp hn
  omega

/-- The next watch to be drawn belongs to no launch. -/
theorem next_watch (h : Drawn base e ls) :
    Uuid.drawn e.seed .watch e.watchesDrawn ∉ ls.filterMap Launch.watch := by
  rw [h.seed]
  intro hm
  obtain ⟨n, -, hlt, hn⟩ := h.watch _ hm
  obtain ⟨-, rfl⟩ := Uuid.drawn_inj.mp hn
  omega

/-- A launch with the next flow. -/
theorem snoc (h : Drawn base e ls) (hs : e'.seed = e.seed)
    (hf : e'.flowsDrawn = e.flowsDrawn + 1) (hw : e'.watchesDrawn = e.watchesDrawn) (plan : Plan)
    (stage : Stage) :
    Drawn base e' (ls ++ [⟨plan, Uuid.drawn e.seed .flow e.flowsDrawn, none, stage⟩]) := by
  have hle := h.flow_le
  refine ⟨hs.trans h.seed, by omega, hw ▸ h.watch_le, ?_, ?_, ?_, ?_⟩
  · intro id hid
    rw [List.map_append] at hid
    rcases List.mem_append.mp hid with hid | hid
    · obtain ⟨n, hn, hlt, he⟩ := h.flow id hid
      exact ⟨n, hn, by omega, he⟩
    · obtain rfl := List.mem_singleton.mp hid
      exact ⟨e.flowsDrawn, hle, by omega, by rw [h.seed]⟩
  · simpa [hw] using h.watch
  · rw [List.map_append, List.nodup_append]
    refine ⟨h.flow_nodup, by simp, fun a ha b hb he => ?_⟩
    obtain rfl := List.mem_singleton.mp hb
    have he : a = Uuid.drawn e.seed .flow e.flowsDrawn := he
    exact h.next_flow (he ▸ ha)
  · simpa using h.watch_nodup

/-- The next watch for the last launch. -/
theorem watch_last (h : Drawn base e (ls ++ [l])) (hl : l.watch = none) (hs : e'.seed = e.seed)
    (hf : e'.flowsDrawn = e.flowsDrawn) (hw : e'.watchesDrawn = e.watchesDrawn + 1) :
    Drawn base e' (ls ++ [{ l with watch := some (Uuid.drawn e.seed .watch e.watchesDrawn) }]) := by
  have hle := h.watch_le
  have hold : (ls ++ [l]).filterMap Launch.watch = ls.filterMap Launch.watch := by simp [hl]
  have hnext := h.next_watch
  have hwatch := h.watch
  have hnodup := h.watch_nodup
  rw [hold] at hnext hwatch hnodup
  refine ⟨hs.trans h.seed, hf ▸ h.flow_le, by omega, ?_, ?_, ?_, ?_⟩
  · simpa [hf] using h.flow
  · intro w hm
    rw [List.filterMap_append] at hm
    rcases List.mem_append.mp hm with hm | hm
    · obtain ⟨n, hn, hlt, he⟩ := hwatch w hm
      exact ⟨n, hn, by omega, he⟩
    · obtain rfl := List.mem_singleton.mp hm
      exact ⟨e.watchesDrawn, hle, by omega, by rw [h.seed]⟩
  · simpa using h.flow_nodup
  · rw [List.filterMap_append, List.nodup_append]
    refine ⟨hnodup, by simp, fun a ha b hb he => ?_⟩
    obtain rfl := List.mem_singleton.mp hb
    have he : a = Uuid.drawn e.seed .watch e.watchesDrawn := he
    exact hnext (he ▸ ha)

end Launch.Drawn

/-! ## A dispatch with launches added -/

/-- No flow has an identifier that is still to be drawn, and no owner of a lock. -/
structure Dispatch.Fresh (d : Dispatch LockList) : Prop where
  engine : d.engine.Fresh
  owners : Uuid.DrawsFresh d.engine.seed .flow d.engine.flowsDrawn
    (d.locks.entries.map ResourceLock.owner)

/-- A dispatch `d` is the dispatch `base` with launches added: their flows and watches, the locks of
those that hold one, and in the queue the watches and then the flows that were started. -/
structure Launched (now : Instant) (base : Dispatch LockList) (ls : List Launch)
    (d : Dispatch LockList) : Prop where
  drawn : Launch.Drawn base.engine d.engine ls
  flows : d.engine.flows = base.engine.flows ++ ls.flatMap Launch.flows
  queue : ∃ begun, d.engine.queue.waiting =
      base.engine.queue.waiting ++ ls.filterMap Launch.watch ++ begun ∧
    ∀ id, id ∈ begun ↔ ∃ l ∈ ls, l.stage = .started ∧ l.flow = id
  locks : d.locks.entries = base.locks.entries ++ ls.filterMap (Launch.lock? now)
  apart : ∀ k ∈ ls.filterMap (Launch.lock? now), ∀ b ∈ base.locks.entries, b.key ≠ k.key
  keys_nodup : ((ls.filterMap (Launch.lock? now)).map ResourceLock.key).Nodup
  watched : ∀ l ∈ ls, l.stage.holds = true → l.watch.isSome

namespace Launched

variable {now : Instant} {base d d' : Dispatch LockList} {ls : List Launch} {l : Launch}

theorem refl (now : Instant) (d : Dispatch LockList) : Launched now d [] d :=
  ⟨.nil, by simp, ⟨[], by simp, by simp⟩, by simp, by simp, by simp, by simp⟩

/-! ### Looking up the flow of a launch -/

theorem id_of_mem_flows (h : Launched now base ls d) {f : Flow} (hf : f ∈ ls.flatMap Launch.flows) :
    f.id ∈ ls.map Launch.flow ∨ ∃ n, n < d.engine.watchesDrawn ∧
      f.id = Uuid.drawn base.engine.seed .watch n := by
  obtain ⟨l, hl, hfl⟩ := List.mem_flatMap.mp hf
  rcases Launch.mem_flows.mp hfl with rfl | ⟨w, hw, rfl⟩
  · exact .inl (List.mem_map.mpr ⟨l, hl, (Launch.main_id l).symm⟩)
  · obtain ⟨n, -, hlt, he⟩ := h.drawn.watch w (List.mem_filterMap.mpr ⟨l, hl, hw⟩)
    exact .inr ⟨n, hlt, he⟩

theorem fresh (h : Launched now base ls d) (hb : base.engine.Fresh) : d.engine.Fresh := by
  refine hb.append h.flows h.drawn.seed h.drawn.flow_le h.drawn.watch_le fun f hf => ?_
  rcases h.id_of_mem_flows hf with hm | ⟨n, hlt, he⟩
  · obtain ⟨n, -, hlt, he⟩ := h.drawn.flow _ hm
    exact ⟨.flow, n, he, fun _ => hlt, nofun⟩
  · exact ⟨.watch, n, he, nofun, fun _ => hlt⟩

theorem base_id_ne (h : Launched now base ls d) (hb : base.engine.Fresh) (hl : l ∈ ls) :
    ∀ f ∈ base.engine.flows, f.id ≠ l.flow := by
  intro f hf he
  obtain ⟨n, hn, -, hl⟩ := h.drawn.flow _ (List.mem_map_of_mem hl)
  exact hb.flow n hn (List.mem_map.mpr ⟨f, hf, he.trans hl⟩)

theorem mem_of_base (h : Launched now base ls d) {f : Flow} (hf : f ∈ base.engine.flows) :
    f ∈ d.engine.flows := by
  rw [h.flows]
  exact List.mem_append_left _ hf

theorem main_mem (h : Launched now base ls d) (hl : l ∈ ls) : l.main ∈ d.engine.flows := by
  rw [h.flows]
  exact List.mem_append_right _ (List.mem_flatMap.mpr ⟨l, hl, List.mem_cons_self⟩)

theorem watch_mem (h : Launched now base ls d) (hl : l ∈ ls) {w : Uuid} (hw : l.watch = some w) :
    Engine.watchFlow w (l.plan.watch l.flow) ∈ d.engine.flows := by
  rw [h.flows]
  exact List.mem_append_right _
    (List.mem_flatMap.mpr ⟨l, hl, Launch.mem_flows.mpr (.inr ⟨w, hw, rfl⟩)⟩)

/-- A flow was there at the beginning, or is the flow of a launch or the watch of one. -/
theorem flow_cases (h : Launched now base ls d) {f : Flow} (hf : f ∈ d.engine.flows) :
    f ∈ base.engine.flows ∨ ∃ l ∈ ls,
      f = l.main ∨ ∃ w, l.watch = some w ∧ f = Engine.watchFlow w (l.plan.watch l.flow) := by
  rw [h.flows] at hf
  refine (List.mem_append.mp hf).imp_right fun hm => ?_
  obtain ⟨l, hl, hfl⟩ := List.mem_flatMap.mp hm
  exact ⟨l, hl, Launch.mem_flows.mp hfl⟩

/-- A lock was there at the beginning, or is the lock of a launch. -/
theorem lock_cases (h : Launched now base ls d) {k : ResourceLock} (hk : k ∈ d.locks.entries) :
    k ∈ base.locks.entries ∨ ∃ l ∈ ls, l.lock? now = some k := by
  rw [h.locks] at hk
  exact (List.mem_append.mp hk).imp_right List.mem_filterMap.mp

/-- Only the flow of a launch has its identifier. -/
theorem eq_main (h : Launched now base ls d) (hb : base.engine.Fresh) (hl : l ∈ ls) :
    ∀ f ∈ d.engine.flows, f.id = l.flow → f = l.main := by
  intro f hf he
  rcases h.flow_cases hf with hf | ⟨l', hl', rfl | ⟨w, hw, rfl⟩⟩
  · exact absurd he (h.base_id_ne hb hl f hf)
  · rw [h.drawn.eq_of_flow hl' hl (by simpa using he)]
  · exact absurd he (h.drawn.flow_ne_watch hl hl' hw)

theorem find?_main (h : Launched now base ls d) (hb : base.engine.Fresh) (hl : l ∈ ls) :
    d.engine.find? l.flow = some l.main := by
  have hu := Engine.find?_unique (h.main_mem hl) fun f hf he =>
    h.eq_main hb hl f hf (by simpa using he)
  simpa using hu

/-- The lock of a launch is the one on its key. -/
theorem lock?_eq (h : Launched now base ls d) (hl : l ∈ ls) (hs : l.stage.holds = true) :
    d.locks.lock? l.plan.key = some (l.lock now) := by
  have hmem : l.lock now ∈ ls.filterMap (Launch.lock? now) :=
    List.mem_filterMap.mpr ⟨l, hl, Launch.lock?_of_holds hs⟩
  refine LockList.lock?_eq_some (l := l.lock now) ?_ fun k hk he => ?_
  · rw [h.locks]
    exact List.mem_append_right _ hmem
  · rcases h.lock_cases hk with hk | hk
    · exact absurd he (h.apart _ hmem k hk)
    · exact List.inj_on_of_nodup_map h.keys_nodup (List.mem_filterMap.mpr hk) hmem he

/-- A launch without lock owns none. -/
theorem owner_ne (h : Launched now base ls d) (hb : base.Fresh) (hl : l ∈ ls)
    (hs : l.stage.holds = false) : ∀ k ∈ d.locks.entries, k.owner ≠ l.flow := by
  intro k hk he
  rcases h.lock_cases hk with hk | ⟨l', hl', hlock⟩
  · obtain ⟨n, hn, -, hdrawn⟩ := h.drawn.flow _ (List.mem_map_of_mem hl)
    exact hb.owners n hn (List.mem_map.mpr ⟨k, hk, he.trans hdrawn⟩)
  · obtain ⟨hs', -, howner⟩ := Launch.lock?_eq_some hlock
    obtain rfl := h.drawn.eq_of_flow hl' hl (howner.symm.trans he)
    exact nomatch hs.symm.trans hs'

/-- Changing the flow of a launch as its new stage asks changes nothing else. -/
theorem modify_flows (h : Launched now base ls d) (hb : base.engine.Fresh) (hl : l ∈ ls)
    {stage : Stage} {change : Flow → Flow} (hc : change l.main = { l with stage := stage }.main) :
    (d.engine.modify l.flow change).flows = base.engine.flows ++
      (ls.map (Launch.assign [l.flow] fun _ => stage)).flatMap Launch.flows := by
  simp only [Engine.modify, h.flows, List.map_append, List.map_flatMap, List.flatMap_map]
  congr 1
  · exact map_eq_self fun f hf => if_neg (h.base_id_ne hb hl f hf)
  · refine List.flatMap_congr fun l' hl' => ?_
    have hwatch : ∀ w, l'.watch = some w →
        (Engine.watchFlow w (l'.plan.watch l'.flow)).id ≠ l.flow := fun w hw =>
      h.drawn.flow_ne_watch hl hl' hw
    rcases h.drawn.assign_cases hl hl' stage with ⟨rfl, hassign⟩ | ⟨he, hassign⟩
    · rw [hassign]
      cases hw : l'.watch with
      | none => simp [Launch.flows, hw, hc]
      | some w => simp [Launch.flows, hw, hc, hwatch w hw]
    · rw [hassign]
      cases hw : l'.watch with
      | none => simp [Launch.flows, hw, he]
      | some w => simp [Launch.flows, hw, he, hwatch w hw]

end Launched

end BalancerImport
