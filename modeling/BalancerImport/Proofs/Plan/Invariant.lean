import BalancerImport.Proofs.Flow.Ending
import BalancerImport.Proofs.Plan.Launch
import Mathlib.Data.List.Perm.Basic

/-!
# The invariant of the engine and the locks

What holds of the flows, the queue and the locks whenever no call is being served: each flow that is
not over waits in the queue, each flow for a balancer that is not over holds its lock, and each lock
has a watch that will release it.

* `Watch.Guards`: a watch will release a lock;
* `Dispatch.Sound`: the invariant; the queue is a list of its own, as a pass works on parts of it;
* **`Dispatch.Sound.launched`**: launches that are over keep it;
* **`Dispatch.Sound.settle`**: so do flows that end, with locks whose owners have ended;
* `Dispatch.Sound.drop`, `Dispatch.Sound.requeue`: flows leave the queue, or move in it.
-/

namespace BalancerImport

/-- Whether a watch waits for the owner of a lock, and will release that lock. -/
def Watch.Guards (x : Watch) (k : ResourceLock) : Prop :=
  x.flow = k.owner ∧ x.resourceKind = Named.name k.key.kind ∧ x.resourceId = k.key.id

/-- Flows, locks and the flows that wait for a worker fit together. -/
structure Dispatch.Sound (queue : List Uuid) (d : Dispatch LockList) : Prop where
  fresh : d.engine.Fresh
  ids_nodup : (d.engine.flows.map Flow.id).Nodup
  keys_nodup : (d.locks.entries.map ResourceLock.key).Nodup
  known : ∀ id ∈ queue, ∃ f ∈ d.engine.flows, f.id = id
  queued : ∀ f ∈ d.engine.flows, f.state.isTerminal = false → f.id ∈ queue
  /-- A flow for a balancer that is not over is pending and holds its lock. -/
  held : ∀ f ∈ d.engine.flows, f.watch = none → f.state.isTerminal = false → f.state = .pending ∧
    ∃ lbId, f.IsFor lbId ∧ ∃ k ∈ d.locks.entries, k.key = .balancer lbId ∧ k.owner = f.id
  owned : ∀ k ∈ d.locks.entries, ∃ lbId, k.key = .balancer lbId ∧
    ∃ f ∈ d.engine.flows, f.watch = none ∧ f.id = k.owner ∧ f.IsFor lbId
  guarded : ∀ k ∈ d.locks.entries, ∃ g ∈ d.engine.flows, g.state.isTerminal = false ∧
    ∃ x, g.watch = some x ∧ x.Guards k
  /-- A watch waits for a flow for a balancer. -/
  watching : ∀ g ∈ d.engine.flows, ∀ x, g.watch = some x →
    x.resourceKind = Named.name ResourceKind.loadBalancer ∧
      ∃ f ∈ d.engine.flows, f.watch = none ∧ f.id = x.flow

namespace Dispatch.Sound

variable {now : Instant} {queue queue' : List Uuid} {d d' : Dispatch LockList} {ls : List Launch}
  {f g : Flow} {id : Uuid}

/-- An engine and locks that were never used. -/
theorem empty (seed : Nat) : Sound [] { engine := .empty seed, locks := .empty } := by
  constructor <;> simp [Engine.empty, LockList.empty]
  exact ⟨.nil, .nil⟩

/-- Neither budgets nor what the engine itself queues matter. -/
theorem congr (h : Sound queue d) (hs : d'.engine.seed = d.engine.seed)
    (hf : d'.engine.flowsDrawn = d.engine.flowsDrawn)
    (hw : d'.engine.watchesDrawn = d.engine.watchesDrawn)
    (hflows : d'.engine.flows = d.engine.flows) (hlocks : d'.locks = d.locks) : Sound queue d' := by
  obtain ⟨⟨hflow, hwatch⟩, h₁, h₂, h₃, h₄, h₅, h₆, h₇, h₈⟩ := h
  rw [← hs, ← hf, ← hflows] at hflow
  rw [← hs, ← hw, ← hflows] at hwatch
  rw [← hflows] at h₁ h₃ h₄ h₅ h₆ h₇ h₈
  rw [← hlocks] at h₂ h₅ h₆ h₇
  exact ⟨⟨hflow, hwatch⟩, h₁, h₂, h₃, h₄, h₅, h₆, h₇, h₈⟩

/-! ## Identifiers -/

theorem eq_of_id (h : Sound queue d) (hf : f ∈ d.engine.flows) (hg : g ∈ d.engine.flows)
    (he : f.id = g.id) : f = g := List.inj_on_of_nodup_map h.ids_nodup hf hg he

theorem find? (h : Sound queue d) (hf : f ∈ d.engine.flows) : d.engine.find? f.id = some f :=
  Engine.find?_unique hf fun _ hg he => h.eq_of_id hg hf he

/-- The owner of a lock is a flow, so that its identifier was drawn. -/
theorem dispatch_fresh (h : Sound queue d) : d.Fresh := by
  refine ⟨h.fresh, fun n hn hm => ?_⟩
  obtain ⟨k, hk, he⟩ := List.mem_map.mp hm
  obtain ⟨_, -, f, hf, -, howner, -⟩ := h.owned k hk
  exact h.fresh.flow n hn (List.mem_map.mpr ⟨f, hf, howner.trans he⟩)

/-! ## The queue -/

/-- Only the members of the queue matter. -/
theorem requeue (h : Sound queue d) (hq : ∀ id, id ∈ queue' ↔ id ∈ queue) : Sound queue' d :=
  { h with
    known := fun id hid => h.known id ((hq id).mp hid)
    queued := fun f hf ho => (hq _).mpr (h.queued f hf ho) }

/-- A flow that is over leaves the queue. -/
theorem drop (h : Sound (id :: queue) d)
    (ho : ∀ f ∈ d.engine.flows, f.id = id → f.state.isTerminal = true) : Sound queue d :=
  { h with
    known := fun id hid => h.known id (List.mem_cons_of_mem _ hid)
    queued := fun f hf hopen => by
      rcases List.mem_cons.mp (h.queued f hf hopen) with he | hm
      · exact absurd (ho f hf he) (by simp [hopen])
      · exact hm }

/-! ## Launches -/

/-- The identifiers of launches, as a list of flows and a list of watches. -/
theorem map_id_flows : ∀ ls : List Launch, ((ls.flatMap Launch.flows).map Flow.id).Perm
    (ls.map Launch.flow ++ ls.filterMap Launch.watch)
  | [] => .refl _
  | l :: ls => by
    have ih := map_id_flows ls
    rw [List.flatMap_cons, List.map_append, List.map_cons]
    cases hw : l.watch with
    | none =>
      rw [List.filterMap_cons_none hw]
      simpa [Launch.flows, hw] using ih
    | some w =>
      rw [List.filterMap_cons_some hw]
      simp only [Launch.flows, hw, Option.toList_some, List.map_cons, List.map_nil, Launch.main_id,
        List.cons_append, List.nil_append]
      exact ((ih.cons w).trans List.perm_middle.symm).cons _

theorem ids_nodup_launched (h : Sound queue d) (hl : Launched now d ls d') :
    (d'.engine.flows.map Flow.id).Nodup := by
  rw [hl.flows, List.map_append, List.nodup_append]
  refine ⟨h.ids_nodup, ?_, fun a ha b hb he => ?_⟩
  · rw [(map_id_flows ls).nodup_iff, List.nodup_append]
    refine ⟨hl.drawn.flow_nodup, hl.drawn.watch_nodup, fun a ha b hb he => ?_⟩
    obtain ⟨l, hm, rfl⟩ := List.mem_map.mp ha
    obtain ⟨l', hm', hw⟩ := List.mem_filterMap.mp hb
    exact hl.drawn.flow_ne_watch hm hm' hw he.symm
  · subst he
    rcases List.mem_append.mp ((map_id_flows ls).subset hb) with hb | hb
    · obtain ⟨n, hn, -, rfl⟩ := hl.drawn.flow _ hb
      exact h.fresh.flow n hn ha
    · obtain ⟨n, hn, -, rfl⟩ := hl.drawn.watch _ hb
      exact h.fresh.watch n hn ha

/-- **Launches that are over keep the invariant.** -/
theorem launched (h : Sound d.engine.queue.waiting d) (hl : Launched now d ls d')
    (hls : ∀ l ∈ ls, l.plan.key = .balancer l.plan.lbId ∧ l.stage.IsFinal) :
    Sound d'.engine.queue.waiting d' := by
  obtain ⟨begun, hqueue, hbegun⟩ := hl.queue
  have hlocks : ∀ k ∈ d.locks.entries, k ∈ d'.locks.entries := fun k hk => by
    rw [hl.locks]
    exact List.mem_append_left _ hk
  have hwaiting : ∀ id ∈ d.engine.queue.waiting, id ∈ d'.engine.queue.waiting := fun id hid => by
    rw [hqueue, List.append_assoc]
    exact List.mem_append_left _ hid
  constructor
  case fresh => exact hl.fresh h.fresh
  case ids_nodup => exact h.ids_nodup_launched hl
  case keys_nodup =>
    rw [hl.locks, List.map_append, List.nodup_append]
    refine ⟨h.keys_nodup, hl.keys_nodup, fun a ha b hb he => ?_⟩
    obtain ⟨k, hk, rfl⟩ := List.mem_map.mp ha
    obtain ⟨k', hk', rfl⟩ := List.mem_map.mp hb
    exact hl.apart k' hk' k hk he
  case known =>
    intro id hid
    rw [hqueue, List.mem_append, List.mem_append] at hid
    rcases hid with (hid | hid) | hid
    · obtain ⟨f, hf, he⟩ := h.known id hid
      exact ⟨f, hl.mem_of_base hf, he⟩
    · obtain ⟨l, hm, hw⟩ := List.mem_filterMap.mp hid
      exact ⟨_, hl.watch_mem hm hw, rfl⟩
    · obtain ⟨l, hm, -, rfl⟩ := (hbegun id).mp hid
      exact ⟨l.main, hl.main_mem hm, l.main_id⟩
  case queued =>
    intro f hf ho
    rcases hl.flow_cases hf with hf | ⟨l, hm, rfl | ⟨w, hw, rfl⟩⟩
    · exact hwaiting _ (h.queued f hf ho)
    · rcases (hls l hm).2 with hst | ⟨reason, hst⟩
      · rw [hqueue, Launch.main_id]
        exact List.mem_append_right _ ((hbegun _).mpr ⟨l, hm, hst, rfl⟩)
      · rw [Launch.main, hst] at ho
        cases ho
    · rw [hqueue, List.append_assoc]
      exact List.mem_append_right _ (List.mem_append_left _ (List.mem_filterMap.mpr ⟨l, hm, hw⟩))
  case held =>
    intro f hf hmain ho
    rcases hl.flow_cases hf with hf | ⟨l, hm, rfl | ⟨w, hw, rfl⟩⟩
    · obtain ⟨hst, lbId, hfor, k, hk, hkey⟩ := h.held f hf hmain ho
      exact ⟨hst, lbId, hfor, k, hlocks k hk, hkey⟩
    · rcases (hls l hm).2 with hst | ⟨reason, hst⟩
      · refine ⟨by rw [Launch.main, hst]; rfl, _, l.main_isFor, l.lock now, ?_, (hls l hm).1,
          l.main_id.symm⟩
        rw [hl.locks]
        exact List.mem_append_right _
          (List.mem_filterMap.mpr ⟨l, hm, Launch.lock?_of_holds (by rw [hst]; rfl)⟩)
      · rw [Launch.main, hst] at ho
        cases ho
    · cases hmain
  case owned =>
    intro k hk
    rcases hl.lock_cases hk with hk | ⟨l, hm, hk⟩
    · obtain ⟨lbId, hkey, f, hf, hmain⟩ := h.owned k hk
      exact ⟨lbId, hkey, f, hl.mem_of_base hf, hmain⟩
    · obtain ⟨-, hkey, howner⟩ := Launch.lock?_eq_some hk
      exact ⟨_, hkey.trans (hls l hm).1, l.main, hl.main_mem hm, l.main_watch,
        l.main_id.trans howner.symm, l.main_isFor⟩
  case guarded =>
    intro k hk
    rcases hl.lock_cases hk with hk | ⟨l, hm, hk⟩
    · obtain ⟨g, hg, hguard⟩ := h.guarded k hk
      exact ⟨g, hl.mem_of_base hg, hguard⟩
    · obtain ⟨hholds, hkey, howner⟩ := Launch.lock?_eq_some hk
      obtain ⟨w, hw⟩ := Option.isSome_iff_exists.mp (hl.watched l hm hholds)
      refine ⟨_, hl.watch_mem hm hw, rfl, _, rfl, howner.symm, ?_, ?_⟩
      · rw [hkey]
        rfl
      · rw [hkey]
        rfl
  case watching =>
    intro g hg x hx
    rcases hl.flow_cases hg with hg | ⟨l, hm, rfl | ⟨w, hw, rfl⟩⟩
    · obtain ⟨hkind, f, hf, hmain⟩ := h.watching g hg x hx
      exact ⟨hkind, f, hl.mem_of_base hf, hmain⟩
    · rw [Launch.main_watch] at hx
      cases hx
    · obtain rfl := Option.some.inj hx
      refine ⟨?_, l.main, hl.main_mem hm, l.main_watch, l.main_id⟩
      show Named.name l.plan.key.kind = _
      rw [(hls l hm).1]
      rfl

/-! ## Flows that end -/

/-- **A flow that ends keeps the invariant**, with some locks released. Those must be locks of flows
that are over, and the flow may not have been a watch that guards one of the others. -/
theorem settle (h : Sound queue d) {change : Flow → Flow} (hc : Flow.Ends change)
    {keep : ResourceLock → Bool}
    (hreleased : ∀ k ∈ d.locks.entries, keep k = false →
      ∀ f ∈ d.engine.flows, f.id = k.owner → f.state.isTerminal = true)
    (hkept : ∀ k ∈ d.locks.entries, keep k = true →
      ∀ g ∈ d.engine.flows, g.id = id → ∀ x, g.watch = some x → ¬ x.Guards k) :
    Sound queue { engine := d.engine.modify id change,
                  locks := { entries := d.locks.entries.filter keep } } := by
  constructor
  case fresh => exact h.fresh.modify hc.id
  case ids_nodup =>
    rw [hc.map_id_modify]
    exact h.ids_nodup
  case keys_nodup => exact h.keys_nodup.sublist (List.filter_sublist.map _)
  case known =>
    intro id hid
    obtain ⟨f, hf, he⟩ := h.known id hid
    obtain ⟨f', hf', he', -⟩ := hc.mem_modify hf
    exact ⟨f', hf', he'.trans he⟩
  case queued =>
    intro f' hf' ho
    obtain ⟨f, hf, -, -, -, hsame⟩ := hc.of_mem_modify hf'
    obtain rfl := hsame ho
    exact h.queued _ hf ho
  case held =>
    intro f' hf' hmain ho
    obtain ⟨f, hf, -, -, -, hsame⟩ := hc.of_mem_modify hf'
    obtain rfl := hsame ho
    obtain ⟨hst, lbId, hfor, k, hk, hkey, howner⟩ := h.held _ hf hmain ho
    refine ⟨hst, lbId, hfor, k, List.mem_filter.mpr ⟨hk, ?_⟩, hkey, howner⟩
    cases hkeep : keep k with
    | true => rfl
    | false => exact absurd (hreleased k hk hkeep _ hf howner.symm) (by simp [ho])
  case owned =>
    intro k hk
    obtain ⟨lbId, hkey, f, hf, hmain, howner, hfor⟩ := h.owned k (List.mem_of_mem_filter hk)
    obtain ⟨f', hf', he, hw, hshared, -⟩ := hc.mem_modify hf
    exact ⟨lbId, hkey, f', hf', hw.trans hmain, he.trans howner, hshared.trans hfor⟩
  case guarded =>
    intro k hk
    obtain ⟨hk, hkeep⟩ := List.mem_filter.mp hk
    obtain ⟨g, hg, ho, x, hx, hguards⟩ := h.guarded k hk
    obtain ⟨g', hg', -, -, -, hsame⟩ := hc.mem_modify hg
    obtain rfl := hsame fun he => hkept k hk hkeep g hg he x hx hguards
    exact ⟨_, hg', ho, x, hx, hguards⟩
  case watching =>
    intro g' hg' x hx
    obtain ⟨g, hg, -, hw, -⟩ := hc.of_mem_modify hg'
    obtain ⟨hkind, f, hf, hmain, he⟩ := h.watching g hg x (hw.symm.trans hx)
    obtain ⟨f', hf', he', hw', -⟩ := hc.mem_modify hf
    exact ⟨hkind, f', hf', hw'.trans hmain, he'.trans he⟩

/-- A flow for a balancer that ends keeps its lock. -/
theorem settle_main (h : Sound queue d) {change : Flow → Flow} (hc : Flow.Ends change)
    (hmain : ∀ f ∈ d.engine.flows, f.id = id → f.watch = none) :
    Sound queue { d with engine := d.engine.modify id change } := by
  have hall : (d.locks.entries.filter fun _ => true) = d.locks.entries := by simp
  have hsettled : Sound queue
      { engine := d.engine.modify id change, locks := ⟨d.locks.entries.filter fun _ => true⟩ } := by
    refine h.settle hc (fun _ _ hk => nomatch hk) fun k _ _ g hg he x hx => ?_
    rw [hmain g hg he] at hx
    exact nomatch hx
  rwa [hall] at hsettled

/-- A watch that ends releases the lock of the flow that it waited for, which is over. -/
theorem settle_watch (h : Sound queue d) {change : Flow → Flow} (hc : Flow.Ends change)
    (hg : g ∈ d.engine.flows) {x : Watch} (hx : g.watch = some x) (hf : f ∈ d.engine.flows)
    (hid : f.id = x.flow) (hover : f.state.isTerminal = true) :
    Sound queue { engine := d.engine.modify g.id change,
                  locks := (Lock.release (.balancer x.resourceId) x.flow d.locks).2 } := by
  rw [Lock.release_snd]
  refine h.settle hc (fun k hk hreleased f' hf' he => ?_)
    fun k hk hkept g' hg' he x' hx' hguards => ?_
  · -- the lock that is released is that of the flow that is over
    have hholds : LockList.holds (.balancer x.resourceId) x.flow k = true := by
      simpa using hreleased
    obtain ⟨-, howner⟩ := LockList.holds_iff.mp hholds
    rwa [h.eq_of_id hf' hf (by rw [he, howner, hid])]
  · -- a lock that the watch guards is the one that is released
    obtain rfl := h.eq_of_id hg' hg he
    obtain rfl := Option.some.inj (hx'.symm.trans hx)
    obtain ⟨howner, -, hres⟩ := hguards
    obtain ⟨lbId, hkey, -⟩ := h.owned k hk
    have hholds : LockList.holds (.balancer x'.resourceId) x'.flow k = true := by
      refine LockList.holds_iff.mpr ⟨?_, howner.symm⟩
      rw [hres, hkey]
      rfl
    simp [hholds] at hkept

end Dispatch.Sound

end BalancerImport
