import BalancerImport.Proofs.Flow.Turns
import BalancerImport.Proofs.Flow.Visits
import Mathlib.Data.List.Nodup
import Mathlib.Data.List.Perm.Basic

/-!
# Passes over an engine in order

An engine is in order when each pending flow waits in the queue, once, and everything that waits was
begun. A pass keeps that order, and serves each flow in one visit at most.

* `Engine.Orderly`: the order; `Orderly.ends`, `Orderly.drop`: flows that end, and leave the queue;
* `Visit.Due`: the calls of a visit were due to a flow that was pending, and is over afterwards;
* `Engine.Serves`, `Engine.Works`: what visits did to an engine, over any time and in one pass;
* `Worker.runItem_main`: nothing is left of a flow having been marked while its tasks were tried;
* `Worker.Fared.works`, `Worker.runItem_works`: one flow of the queue; `Worker.runRound_works`: the
  queue once;
* **`Worker.runUntilIdle_works`**: a pass succeeds, keeps the order, and its visits were due.
-/

namespace BalancerImport

/-! ## The order -/

/-- Flows and the flows that wait for a worker fit together. -/
structure Engine.Orderly (queue : List Uuid) (e : Engine) : Prop where
  fresh : e.Fresh
  ids_nodup : (e.flows.map Flow.id).Nodup
  queue_nodup : queue.Nodup
  known : ∀ id ∈ queue, ∃ f ∈ e.flows, f.id = id ∧ f.state ≠ .dormant
  queued : ∀ f ∈ e.flows, f.state = .pending → f.id ∈ queue
  idle : ∀ f ∈ e.flows, f.state ≠ .running
  /-- A flow that is watched exists. -/
  watched : ∀ f ∈ e.flows, ∀ w, f.watch = some w → ∃ g ∈ e.flows, g.id = w.flow

namespace Engine.Orderly

variable {queue queue' : List Uuid} {e e' : Engine} {id : Uuid} {f g : Flow}

/-- An engine that was never used. -/
theorem empty (seed : Nat) : Orderly [] (.empty seed) := by
  constructor <;> simp [Engine.empty]
  exact ⟨.nil, .nil⟩

/-- Budgets do not matter. -/
theorem congr (h : Orderly queue e) (hs : e'.seed = e.seed) (hf : e'.flowsDrawn = e.flowsDrawn)
    (hw : e'.watchesDrawn = e.watchesDrawn) (hflows : e'.flows = e.flows) : Orderly queue e' := by
  obtain ⟨⟨hflow, hwatch⟩, h₁, h₂, h₃, h₄, h₅, h₆⟩ := h
  rw [← hs, ← hf, ← hflows] at hflow
  rw [← hs, ← hw, ← hflows] at hwatch
  rw [← hflows] at h₁ h₃ h₄ h₅ h₆
  exact ⟨⟨hflow, hwatch⟩, h₁, h₂, h₃, h₄, h₅, h₆⟩

theorem eq_of_id (h : Orderly queue e) (hf : f ∈ e.flows) (hg : g ∈ e.flows) (he : f.id = g.id) :
    f = g := List.inj_on_of_nodup_map h.ids_nodup hf hg he

theorem find? (h : Orderly queue e) (hf : f ∈ e.flows) : e.find? f.id = some f :=
  Engine.find?_unique hf fun _ hg he => h.eq_of_id hg hf he

/-- What waits is pending, or is over by now. -/
theorem pending (h : Orderly queue e) (hf : f ∈ e.flows) (hq : f.id ∈ queue)
    (ho : f.state.isTerminal = false) : f.state = .pending := by
  obtain ⟨g, hg, he, hbegun⟩ := h.known _ hq
  obtain rfl := h.eq_of_id hg hf he
  have hidle := h.idle g hf
  cases hst : g.state <;> simp_all [FlowState.isTerminal]

/-- The order in the queue does not matter. -/
theorem perm (h : Orderly queue e) (hp : queue.Perm queue') : Orderly queue' e :=
  { h with
    queue_nodup := hp.nodup_iff.mp h.queue_nodup
    known := fun id hid => h.known id (hp.mem_iff.mpr hid)
    queued := fun f hf hst => hp.mem_iff.mp (h.queued f hf hst) }

/-- A flow that is over leaves the queue. -/
theorem drop (h : Orderly (id :: queue) e)
    (ho : ∀ f ∈ e.flows, f.id = id → f.state.isTerminal = true) : Orderly queue e :=
  { h with
    queue_nodup := (List.nodup_cons.mp h.queue_nodup).2
    known := fun u hu => h.known u (List.mem_cons_of_mem _ hu)
    queued := fun f hf hst => by
      rcases List.mem_cons.mp (h.queued f hf hst) with he | hm
      · have hover := ho f hf he
        rw [hst] at hover
        exact nomatch hover
      · exact hm }

/-- **A flow that ends keeps the order.** -/
theorem ends (h : Orderly queue e) {change : Flow → Flow} (hc : Flow.Ends change) :
    Orderly queue (e.modify id change) := by
  have hopen : ∀ f ∈ (e.modify id change).flows, f.state.isTerminal = false → f ∈ e.flows := by
    intro f' hf' ho
    obtain ⟨f, hf, -, -, -, hsame⟩ := hc.of_mem_modify hf'
    exact hsame ho ▸ hf
  constructor
  case fresh => exact h.fresh.modify hc.id
  case ids_nodup =>
    rw [hc.map_id_modify]
    exact h.ids_nodup
  case queue_nodup => exact h.queue_nodup
  case known =>
    intro u hu
    obtain ⟨f, hf, he, hbegun⟩ := h.known u hu
    obtain ⟨f', hf', he', -⟩ := hc.mem_modify hf
    refine ⟨f', hf', he'.trans he, fun hst => ?_⟩
    -- a dormant flow did not end, so that it is the one from before
    have hold : f' ∈ e.flows := hopen f' hf' (by rw [hst]; rfl)
    exact hbegun (h.eq_of_id hold hf he' ▸ hst)
  case queued =>
    intro f hf hst
    exact h.queued f (hopen f hf (by rw [hst]; rfl)) hst
  case idle =>
    intro f hf hst
    exact h.idle f (hopen f hf (by rw [hst]; rfl)) hst
  case watched =>
    intro f' hf' w hw
    obtain ⟨f, hf, -, hwatch, -⟩ := hc.of_mem_modify hf'
    obtain ⟨g, hg, he⟩ := h.watched f hf w (hwatch ▸ hw)
    obtain ⟨g', hg', he', -⟩ := hc.mem_modify hg
    exact ⟨g', hg', he'.trans he⟩

end Engine.Orderly

/-! ## What visits do -/

/-- Whether a handler was called during a visit. -/
def Visit.called (v : Visit) : Bool := !v.calls.isEmpty

/-- The calls of a visit were due to a flow: it was pending, and is over later. For its tasks only
their actions were called; what it watched was over, and was announced once, as it still is later. -/
structure Visit.Due (v : Visit) (f : Flow) (later : List Flow) : Prop where
  found : v.engine.find? v.flow = some f
  pending : f.state = .pending
  tried : f.watch = none → ∀ c ∈ v.calls, ∃ t ∈ f.tasks, c = .perform t.task.action t.task.params
  announced : ∀ w, f.watch = some w → ∃ g, v.engine.find? w.flow = some g ∧ g ∈ later ∧
    g.state.isTerminal = true ∧ v.calls = [.announce w g.state]
  ended : ∃ g ∈ later, g.id = v.flow ∧ g.state.isTerminal = true

/-- What was over stays so. -/
theorem Visit.Due.mono {v : Visit} {f : Flow} {later later' : List Flow} (h : v.Due f later)
    (hlast : ∀ f ∈ later, f.state.isTerminal = true → f ∈ later') : v.Due f later' :=
  { h with
    announced := fun w hw => by
      obtain ⟨g, hg, hm, hover, hcalls⟩ := h.announced w hw
      exact ⟨g, hg, hlast g hm hover, hover, hcalls⟩
    ended := by
      obtain ⟨g, hg, he, hover⟩ := h.ended
      exact ⟨g, hlast g hg hover, he, hover⟩ }

namespace Engine

variable {e e' e'' : Engine} {vs vs' : List Visit}

/-- What visits did to an engine. Flows that are over stay as they are, and calls are made for a flow
that is not over yet, in one visit. -/
structure Serves (e e' : Engine) (vs : List Visit) : Prop where
  lasting : ∀ f ∈ e.flows, f.state.isTerminal = true → f ∈ e'.flows
  once : ((vs.filter Visit.called).map Visit.flow).Nodup
  due : ∀ v ∈ vs, v.called = true → ∃ f, v.Due f e'.flows
  before : ∀ v ∈ vs, v.called = true → ∀ f ∈ e.flows, f.id = v.flow → f.state.isTerminal = false

/-- What the visits of a pass did to an engine: there are no other flows than before, and those that
are not over were not touched. -/
structure Works (e e' : Engine) (vs : List Visit) : Prop extends Serves e e' vs where
  ids : e'.flows.map Flow.id = e.flows.map Flow.id
  untouched : ∀ f ∈ e'.flows, f.state.isTerminal = false → f ∈ e.flows
  seen : ∀ v ∈ vs, ∀ f ∈ v.engine.flows, f.state.isTerminal = false → f ∈ e.flows

/-- Where nothing was visited, only what is over matters. -/
theorem Serves.of_lasting (h : ∀ f ∈ e.flows, f.state.isTerminal = true → f ∈ e'.flows) :
    Serves e e' [] :=
  { lasting := h, once := .nil, due := nofun, before := nofun }

/-- **Visits after visits.** No flow is served again: after its first visit with calls it is over,
and before a second one it would not be. -/
theorem Serves.trans (h : Serves e e' vs) (h' : Serves e' e'' vs') : Serves e e'' (vs ++ vs') := by
  constructor
  case lasting => exact fun f hf ho => h'.lasting f (h.lasting f hf ho) ho
  case once =>
    rw [List.filter_append, List.map_append, List.nodup_append]
    refine ⟨h.once, h'.once, fun a ha b hb he => ?_⟩
    obtain ⟨v, hv, rfl⟩ := List.mem_map.mp ha
    obtain ⟨v', hv', rfl⟩ := List.mem_map.mp hb
    obtain ⟨hv, hcalled⟩ := List.mem_filter.mp hv
    obtain ⟨hv', hcalled'⟩ := List.mem_filter.mp hv'
    obtain ⟨f, hdue⟩ := h.due v hv hcalled
    obtain ⟨g, hg, hid, hover⟩ := hdue.ended
    have hopen := h'.before v' hv' hcalled' g hg (hid.trans he)
    exact absurd hover (by simp [hopen])
  case due =>
    intro v hv hcalled
    rcases List.mem_append.mp hv with hv | hv
    · obtain ⟨f, hdue⟩ := h.due v hv hcalled
      exact ⟨f, hdue.mono h'.lasting⟩
    · exact h'.due v hv hcalled
  case before =>
    intro v hv hcalled f hf he
    rcases List.mem_append.mp hv with hv | hv
    · exact h.before v hv hcalled f hf he
    · cases ho : f.state.isTerminal with
      | false => rfl
      | true => exact ho.symm.trans (h'.before v hv hcalled f (h.lasting f hf ho) he)

theorem Works.refl (e : Engine) : Works e e [] :=
  { Serves.of_lasting fun _ hf _ => hf with
    ids := rfl
    untouched := fun _ hf _ => hf
    seen := nofun }

theorem Works.trans (h : Works e e' vs) (h' : Works e' e'' vs') : Works e e'' (vs ++ vs') :=
  { h.toServes.trans h'.toServes with
    ids := h'.ids.trans h.ids
    untouched := fun f hf ho => h.untouched f (h'.untouched f hf ho) ho
    seen := fun v hv f hf ho => by
      rcases List.mem_append.mp hv with hv | hv
      · exact h.seen v hv f hf ho
      · exact h.untouched f (h'.seen v hv f hf ho) ho }

/-- A visit without calls. -/
theorem Works.idle (id : Uuid) (e : Engine) : Works e e [{ flow := id, engine := e, calls := [] }] :=
  { lasting := fun _ hf _ => hf
    once := by simp [Visit.called]
    due := by simp [Visit.called]
    before := by simp [Visit.called]
    ids := rfl
    untouched := fun _ hf _ => hf
    seen := by
      intro v hv f hf _
      rw [List.mem_singleton.mp hv] at hf
      exact hf }

variable {queue : List Uuid} {f : Flow} {calls : List Call}

theorem get_of_mem (h : Orderly queue e) (hf : f ∈ e.flows) : e.get f.id = .ok f :=
  get_of_find? (h.find? hf)

theorem get_watched (h : Orderly queue e) (hf : f ∈ e.flows) (w : Watch) (hw : f.watch = some w) :
    ∃ g, e.get w.flow = .ok g := by
  obtain ⟨g, hg, hid⟩ := h.watched f hf w hw
  exact ⟨g, hid ▸ get_of_mem h hg⟩

theorem mem_of_get {id : Uuid} (h : e.get id = .ok f) : f ∈ e.flows ∧ f.id = id := by
  unfold get at h
  split at h
  · rename_i g hg
    obtain rfl := Except.ok.inj h
    exact mem_of_find? hg
  · exact nomatch h

/-- **A visit that ends a flow.** -/
theorem Works.ends (h : Orderly queue e) (hf : f ∈ e.flows) (hp : f.state = .pending)
    {change : Flow → Flow} (hc : Flow.Ends change)
    (htried : f.watch = none → ∀ c ∈ calls, ∃ t ∈ f.tasks, c = .perform t.task.action t.task.params)
    (hannounced : ∀ w, f.watch = some w → ∃ g ∈ e.flows, g.id = w.flow ∧ g.state.isTerminal = true ∧
      calls = [.announce w g.state]) :
    Works e (e.modify f.id change) [{ flow := f.id, engine := e, calls := calls }] := by
  have hlast : ∀ g ∈ e.flows, g.state.isTerminal = true → g ∈ (e.modify f.id change).flows := by
    intro g hg ho
    obtain ⟨g', hg', -, -, -, hsame⟩ := hc.mem_modify hg
    have hne : g.id ≠ f.id := fun he => by
      rw [h.eq_of_id hg hf he, hp] at ho
      exact nomatch ho
    exact hsame hne ▸ hg'
  constructor
  case toServes =>
    constructor
    case lasting => exact hlast
    case once =>
      refine List.Nodup.sublist (List.filter_sublist.map _) ?_
      simp
    case due =>
      intro v hv _
      obtain rfl := List.mem_singleton.mp hv
      obtain ⟨g', (hg' : g' ∈ (e.modify f.id change).flows), he, -⟩ := hc.mem_modify hf
      refine ⟨f, h.find? hf, hp, htried, fun w hw => ?_, g', hg', he, over_of_modify hc g' hg' he⟩
      obtain ⟨g, hg, hid, hover, hcalls⟩ := hannounced w hw
      exact ⟨g, hid ▸ h.find? hg, hlast g hg hover, hover, hcalls⟩
    case before =>
      intro v hv _ g hg he
      obtain rfl := List.mem_singleton.mp hv
      rw [h.eq_of_id hg hf he, hp]
      rfl
  case ids => exact hc.map_id_modify
  case untouched =>
    intro g' hg' ho
    obtain ⟨g, hg, -, -, -, hsame⟩ := hc.of_mem_modify hg'
    exact hsame ho ▸ hg
  case seen =>
    intro v hv g hg _
    rw [List.mem_singleton.mp hv] at hg
    exact hg

end Engine

/-! ## Passes -/

namespace Worker

variable {σ : Type} (h : Handlers σ) {e : Engine} {s : σ} {id : Uuid} {queue rest : List Uuid}
  {f : Flow}

/-- Tries the tasks of a flow, which is marked as running in the meantime. -/
def runMain (f : Flow) (e : Engine) (s : σ) : Except FlowError Fate × Engine × σ :=
  let e := e.modify f.id fun f => { f with state := .running }
  let (tasks, s) := runTasks h [] f.tasks s
  let state := outcome tasks
  (.ok (.ran state), e.modify f.id fun f => { f with tasks := tasks, state := state }, s)

/-- The mark is gone when the tasks were tried. -/
theorem runMain_eq (f : Flow) (e : Engine) (s : σ) :
    runMain h f e s = (.ok (.ran (outcome (runTasks h [] f.tasks s).1)),
      e.modify f.id (fun g => { g with
        tasks := (runTasks h [] f.tasks s).1, state := outcome (runTasks h [] f.tasks s).1 }),
      (runTasks h [] f.tasks s).2) := by
  simp only [runMain]
  rw [Engine.modify_modify f.id (fun g => { g with state := .running }) _ fun _ => rfl]

theorem runItem_main (hf : e.get f.id = .ok f) (ho : f.state.isTerminal = false)
    (hw : f.watch = none) : runItem h f.id e s = runMain h f e s := by
  rw [runMain_eq, runItem, hf]
  simp only [ho, Bool.false_eq_true, if_false, hw]

/-- **How a flow of the queue fares keeps the order**, and only calls that were due are noted. It
goes back to the queue and nothing changed, or it leaves the queue. -/
theorem Fared.works (ho : e.Orderly (f.id :: rest)) (hf : f ∈ e.flows)
    {r : Except FlowError Fate × Engine × σ × List Call} (hfared : Fared h.noting f e (s, []) r) :
    ∃ fate, r.1 = .ok fate ∧ e.Works r.2.1 [{ flow := f.id, engine := e, calls := r.2.2.2 }] ∧
      r.2.1.Orderly (if fate = .requeued then f.id :: rest else rest) := by
  cases hfared with
  | dropped hover =>
    refine ⟨.dropped, rfl, .idle _ e, ho.drop fun g hg he => ?_⟩
    rwa [ho.eq_of_id hg hf he]
  | requeued hopen hw hg hwaits => exact ⟨.requeued, rfl, .idle _ e, ho⟩
  | @finished w g hopen hw hg hended =>
    have hc := ends_finishWatch (h.announce w g.state s).1
    obtain ⟨hg, hid⟩ := Engine.mem_of_get hg
    refine ⟨.watchFinished, rfl, ?_, (ho.ends hc).drop (Engine.over_of_modify hc)⟩
    refine .ends ho hf (ho.pending hf List.mem_cons_self hopen) hc (fun hw' => ?_) fun w' hw' => ?_
    · exact absurd (hw.symm.trans hw') nofun
    · obtain rfl := Option.some.inj (hw.symm.trans hw')
      exact ⟨g, hg, hid, hended, rfl⟩
  | ran hopen hw =>
    have hc := ends_outcome (runTasks h.noting [] f.tasks (s, [])).1
    refine ⟨_, rfl, ?_, (ho.ends hc).drop (Engine.over_of_modify hc)⟩
    refine .ends ho hf (ho.pending hf List.mem_cons_self hopen) hc (fun _ => ?_) fun w hw' => ?_
    · exact performs_of_runTasks h [] f.tasks s
    · exact absurd (hw.symm.trans hw') nofun

/-- **Working on a flow of the queue keeps the order.** It goes back to the queue and nothing
changed, or it leaves the queue. -/
theorem runItem_works (ho : e.Orderly (id :: rest)) :
    ∃ fate e' s', runItem h id e s = (.ok fate, e', s') ∧
      e.Works e' [{ flow := id, engine := e, calls := callsOn h id e s }] ∧
      e'.Orderly (if fate = .requeued then id :: rest else rest) := by
  obtain ⟨f, hf, rfl, -⟩ := ho.known id List.mem_cons_self
  have hfared : Fared h.noting f e (s, []) (runItem h.noting f.id e (s, [])) :=
    runItem_fared h.noting (Engine.get_of_mem ho hf) (Engine.get_watched ho hf)
  rw [Handlers.noting, runItem_logging] at hfared
  obtain ⟨fate, hfate, hworks, horder⟩ := hfared.works h ho hf
  exact ⟨fate, _, _, Prod.ext hfate rfl, hworks, horder⟩

/-- The order of what is still to come in a round and what is kept for the next one. -/
theorem next_of_fate {kept : List Uuid} {fate : Fate}
    (ho : e.Orderly (if fate = .requeued then id :: (rest ++ kept) else rest ++ kept)) :
    e.Orderly (rest ++ if fate = .requeued then kept ++ [id] else kept) := by
  by_cases hf : fate = .requeued
  · rw [if_pos hf] at ho ⊢
    refine ho.perm ?_
    rw [← List.append_assoc]
    exact (List.perm_append_singleton id (rest ++ kept)).symm
  · rwa [if_neg hf] at ho ⊢

theorem next_subset {kept : List Uuid} {fate : Fate} :
    (rest ++ if fate = .requeued then kept ++ [id] else kept) ⊆ id :: rest ++ kept := by
  intro u hu
  rw [List.mem_append] at hu
  split at hu <;> simp only [List.mem_append, List.mem_cons, List.not_mem_nil] at hu ⊢ <;> tauto

/-- **A round keeps the order**, where what is kept for the next one still waits. -/
theorem runRound_works : ∀ (ids kept : List Uuid) (p : Pass σ), p.engine.Orderly (ids ++ kept) →
    ∃ again p', runRound h ids kept p = (.ok again, p') ∧
      p.engine.Works p'.engine ((roundTurns h ids p.engine p.state).map (visit h)) ∧
      p'.engine.Orderly again ∧ again ⊆ ids ++ kept
  | [], kept, p, ho => ⟨kept, p, rfl, .refl _, ho, List.Subset.refl _⟩
  | id :: rest, kept, p, ho => by
    have ho : p.engine.Orderly (id :: (rest ++ kept)) := ho
    obtain ⟨fate, e', s', hitem, hworks, hnext⟩ := runItem_works h (s := p.state) ho
    obtain ⟨again, p', hround, hrest, horder, hsub⟩ := runRound_works rest _
      { engine := e', summary := fate.count p.summary, state := s' } (next_of_fate hnext)
    refine ⟨again, p', ?_, ?_, horder, List.Subset.trans hsub next_subset⟩
    · rw [runRound, hitem]
      exact hround
    · rw [roundTurns, hitem]
      exact hworks.trans hrest

theorem runRounds_works : ∀ (queue : List Uuid) (p : Pass σ), p.engine.Orderly queue →
    ∃ p', runRounds h queue p = (.ok (), p') ∧
      p.engine.Works p'.engine ((passTurns h queue p).map (visit h)) ∧
      p'.engine.Orderly p'.engine.queue.waiting
  | queue, p, ho => by
    have hqueue : p.engine.Orderly (queue ++ []) := by rwa [List.append_nil]
    obtain ⟨again, p₁, hround, hworks, horder, -⟩ := runRound_works h queue [] p hqueue
    rw [runRounds, passTurns, hround, List.map_append]
    by_cases hshort : again.length < queue.length
    · obtain ⟨p', hrest, hworks', horder'⟩ := runRounds_works again p₁ horder
      simp only [if_pos hshort]
      exact ⟨p', hrest, hworks.trans hworks', horder'⟩
    · simp only [if_neg hshort, List.map_nil, List.append_nil]
      refine ⟨_, rfl, ?_, horder.congr rfl rfl rfl rfl⟩
      exact { hworks with }
termination_by queue => queue.length

/-- **A pass succeeds and keeps the order**, and the calls of its visits were due. -/
theorem runUntilIdle_works (ho : e.Orderly e.queue.waiting) (s : σ) :
    ∃ sum e' s', runUntilIdle h e s = (.ok sum, e', s') ∧ e.Works e' (visits h e s) ∧
      e'.Orderly e'.queue.waiting := by
  obtain ⟨p, hrounds, hworks, horder⟩ := runRounds_works h e.queue.waiting
    { engine := e, summary := { succeeded := 0, failed := 0, watches := 0, left := 0 }, state := s }
    ho
  refine ⟨{ p.summary with left := p.engine.queue.size }, p.engine, p.state, ?_, hworks, horder⟩
  rw [runUntilIdle, hrounds]

end Worker

end BalancerImport
