import BalancerImport.Proofs.Flow.Order
import Mathlib.Data.List.Induction

/-!
# Histories of the engine

Whatever was asked of an engine that started empty, in whatever order: its flows are those that were
created, each pending one waits once, and each is served in one visit of one pass at most.

* `EngineRequest`: what an engine can be asked, passes with any handlers included;
* `Engine.after`, `createdOver`, `visitsOver`: an engine after requests, what they created, and the
  visits of their passes;
* `EngineRequest.Kept`, `Engine.Orderly.kept`: what one request keeps;
* `Engine.orderly_after`, `Engine.started_after`: what a history keeps;
* **`Engine.governed`**: all that holds after any history.
-/

namespace BalancerImport

/-! ## Requests -/

/-- What an engine can be asked. -/
inductive EngineRequest : Type 1 where
  | submit (name : String) (tasks : List Task) (shared : List (String × String))
  | submitWatch (w : Watch)
  | start (id : Uuid)
  | cancel (id : Uuid) (reason : String)
  /-- Refuses submissions after so many more. -/
  | limitSubmissions (accepted : Nat)
  /-- Refuses starts after so many more. -/
  | limitStarts (accepted : Nat)
  | refuseWatches (refuses : Bool)
  /-- A pass of the worker. -/
  | run {σ : Type} (h : Handlers σ) (s : σ)

namespace EngineRequest

/-- The engine after a request. -/
def serve : EngineRequest → Engine → Engine
  | submit name tasks shared, e => (e.submit name tasks shared).2
  | submitWatch w, e => (e.submitWatch w).2
  | start id, e => (e.start id).2
  | cancel id reason, e => (e.cancel id reason).2
  | limitSubmissions accepted, e => { e with submitBudget := some accepted }
  | limitStarts accepted, e => { e with startBudget := some accepted }
  | refuseWatches refuses, e => { e with refusesWatches := refuses }
  | run h s, e => (Worker.runUntilIdle h e s).2.1

/-- The flow that a request created, if any. -/
def created : EngineRequest → Engine → List Uuid
  | submit name tasks shared, e => (e.submit name tasks shared).1.toOption.toList
  | submitWatch w, e => (e.submitWatch w).1.toOption.toList
  | _, _ => []

/-- The visits of a request, which are those of a pass. -/
def visits : EngineRequest → Engine → List Visit
  | run h s, e => Worker.visits h e s
  | _, _ => []

end EngineRequest

namespace Engine

/-- An engine after requests. -/
def after (rs : List EngineRequest) (e : Engine) : Engine := rs.foldl (fun e r => r.serve e) e

/-- The flows that requests created, in order. -/
def createdOver : List EngineRequest → Engine → List Uuid
  | [], _ => []
  | r :: rs, e => r.created e ++ createdOver rs (r.serve e)

/-- The visits of the passes among requests, in order. -/
def visitsOver : List EngineRequest → Engine → List Visit
  | [], _ => []
  | r :: rs, e => r.visits e ++ visitsOver rs (r.serve e)

/-- Whether a flow was started by one of the requests. -/
def StartedIn (rs : List EngineRequest) (e : Engine) (id : Uuid) : Prop :=
  ∃ before rest, rs = before ++ .start id :: rest ∧ ((e.after before).start id).1 = .ok ()

variable {e e' : Engine} {id : Uuid} {rs more : List EngineRequest} {r : EngineRequest}

theorem after_append (rs more : List EngineRequest) (e : Engine) :
    e.after (rs ++ more) = (e.after rs).after more := List.foldl_append

theorem after_concat (rs : List EngineRequest) (r : EngineRequest) (e : Engine) :
    e.after (rs ++ [r]) = r.serve (e.after rs) := after_append rs [r] e

theorem visitsOver_append : ∀ (rs more : List EngineRequest) (e : Engine),
    visitsOver (rs ++ more) e = visitsOver rs e ++ visitsOver more (e.after rs)
  | [], _, _ => rfl
  | r :: rs, more, e => by
    have ih := visitsOver_append rs more (r.serve e)
    rw [List.cons_append, visitsOver, visitsOver, ih, List.append_assoc]
    rfl

theorem StartedIn.append (h : StartedIn rs e id) (more : List EngineRequest) :
    StartedIn (rs ++ more) e id := by
  obtain ⟨before, rest, rfl, hok⟩ := h
  exact ⟨before, rest ++ more, by simp, hok⟩

end Engine

/-! ## One request -/

/-- What a request keeps: the order, what is over, and pending flows that are no watches, of which
there is a new one only by a start. -/
structure EngineRequest.Kept (r : EngineRequest) (e : Engine) : Prop where
  order : (r.serve e).Orderly (r.serve e).queue.waiting
  serves : e.Serves (r.serve e) (r.visits e)
  ids : (r.serve e).flows.map Flow.id = e.flows.map Flow.id ++ r.created e
  begun : ∀ f ∈ (r.serve e).flows, f.watch = none → f.state = .pending →
    f ∈ e.flows ∨ (r = .start f.id ∧ (e.start f.id).1 = .ok ())

namespace Engine.Orderly

variable {e e' : Engine} {id : Uuid} {f : Flow} {queue more : List Uuid}

/-- The order with one more flow, which is dormant, or waits after the others. -/
theorem grow (h : Orderly queue e) (hflows : e'.flows = e.flows ++ [f]) (hfresh : e'.Fresh)
    (hnew : f.id ∉ e.flows.map Flow.id)
    (hmore : (f.state = .dormant ∧ more = []) ∨ (f.state = .pending ∧ more = [f.id]))
    (hwatch : ∀ w, f.watch = some w → ∃ g ∈ e.flows, g.id = w.flow) :
    Orderly (queue ++ more) e' := by
  have hold : ∀ g ∈ e.flows, g ∈ e'.flows := fun g hg => hflows ▸ List.mem_append_left _ hg
  have hadded : f ∈ e'.flows := hflows ▸ List.mem_append_right _ List.mem_cons_self
  have hcases : ∀ g ∈ e'.flows, g ∈ e.flows ∨ g = f := fun g hg => by
    rw [hflows] at hg
    exact (List.mem_append.mp hg).imp_right List.mem_singleton.mp
  have hwaits : ∀ u ∈ more, u = f.id ∧ f.state = .pending := fun u hu => by
    rcases hmore with ⟨-, rfl⟩ | ⟨hst, rfl⟩
    · exact absurd hu List.not_mem_nil
    · exact ⟨List.mem_singleton.mp hu, hst⟩
  constructor
  case fresh => exact hfresh
  case ids_nodup =>
    rw [hflows, List.map_append, List.nodup_append]
    refine ⟨h.ids_nodup, List.nodup_singleton _, fun a ha b hb he => ?_⟩
    obtain rfl := List.mem_singleton.mp hb
    exact hnew (he ▸ ha)
  case queue_nodup =>
    refine List.nodup_append.mpr ⟨h.queue_nodup, ?_, fun a ha b hb he => ?_⟩
    · rcases hmore with ⟨-, rfl⟩ | ⟨-, rfl⟩
      · exact .nil
      · exact List.nodup_singleton _
    · obtain ⟨rfl, -⟩ := hwaits b hb
      obtain ⟨g, hg, hid, -⟩ := h.known a ha
      exact hnew (List.mem_map.mpr ⟨g, hg, hid.trans he⟩)
  case known =>
    intro u hu
    rcases List.mem_append.mp hu with hu | hu
    · obtain ⟨g, hg, hid, hst⟩ := h.known u hu
      exact ⟨g, hold g hg, hid, hst⟩
    · obtain ⟨rfl, hst⟩ := hwaits u hu
      exact ⟨f, hadded, rfl, by rw [hst]; nofun⟩
  case queued =>
    intro g hg hst
    rcases hcases g hg with hg | rfl
    · exact List.mem_append_left _ (h.queued g hg hst)
    · rcases hmore with ⟨hdormant, -⟩ | ⟨-, rfl⟩
      · rw [hdormant] at hst
        exact nomatch hst
      · exact List.mem_append_right _ List.mem_cons_self
  case idle =>
    intro g hg hst
    rcases hcases g hg with hg | rfl
    · exact h.idle g hg hst
    · rcases hmore with ⟨hother, -⟩ | ⟨hother, -⟩
      · rw [hother] at hst
        exact nomatch hst
      · rw [hother] at hst
        exact nomatch hst
  case watched =>
    intro g hg w hw
    rcases hcases g hg with hg | rfl
    · obtain ⟨m, hm, hid⟩ := h.watched g hg w hw
      exact ⟨m, hold m hm, hid⟩
    · obtain ⟨m, hm, hid⟩ := hwatch w hw
      exact ⟨m, hold m hm, hid⟩

/-- The order after a dormant flow was queued as pending. -/
theorem queue_dormant (h : Orderly queue e) (hf : f ∈ e.flows) (hst : f.state = .dormant) :
    Orderly (queue ++ [f.id]) (e.modify f.id fun g => { g with state := .pending }) := by
  have hids : (e.modify f.id fun g => { g with state := .pending }).flows.map Flow.id =
      e.flows.map Flow.id := map_id_modify fun _ => rfl
  have hwaits : f.id ∉ queue := fun hm => by
    obtain ⟨g, hg, hid, hbegun⟩ := h.known _ hm
    exact hbegun (h.eq_of_id hg hf hid ▸ hst)
  constructor
  case fresh => exact h.fresh.modify fun _ => rfl
  case ids_nodup =>
    rw [hids]
    exact h.ids_nodup
  case queue_nodup =>
    refine List.nodup_append.mpr ⟨h.queue_nodup, List.nodup_singleton _, fun a ha b hb he => ?_⟩
    exact hwaits (List.mem_singleton.mp hb ▸ he ▸ ha)
  case known =>
    intro u hu
    by_cases he : u = f.id
    · exact ⟨_, changed_mem_modify hf rfl, he.symm, nofun⟩
    · obtain hu | hu := List.mem_append.mp hu
      · obtain ⟨g, hg, hid, hbegun⟩ := h.known u hu
        exact ⟨g, mem_modify_of_ne hg (hid ▸ he), hid, hbegun⟩
      · exact absurd (List.mem_singleton.mp hu) he
  case queued =>
    intro g' hg' hpending
    rcases modify_cases hg' with ⟨hg, -⟩ | ⟨g, hg, hid, rfl⟩
    · exact List.mem_append_left _ (h.queued g' hg hpending)
    · exact List.mem_append_right _ (List.mem_singleton.mpr hid)
  case idle =>
    intro g' hg' hrunning
    rcases modify_cases hg' with ⟨hg, -⟩ | ⟨g, hg, hid, rfl⟩
    · exact h.idle g' hg hrunning
    · exact nomatch hrunning
  case watched =>
    intro g' hg' w hw
    have hold : ∃ g ∈ e.flows, g.watch = some w := by
      rcases modify_cases hg' with ⟨hg, -⟩ | ⟨g, hg, -, rfl⟩
      · exact ⟨g', hg, hw⟩
      · exact ⟨g, hg, hw⟩
    obtain ⟨g, hg, hw⟩ := hold
    obtain ⟨m, hm, hid⟩ := h.watched g hg w hw
    have hm' : m.id ∈ (e.flows.map Flow.id) := List.mem_map_of_mem hm
    rw [← hids] at hm'
    obtain ⟨m', hm', he⟩ := List.mem_map.mp hm'
    exact ⟨m', hm', he.trans hid⟩

variable {r : EngineRequest}

/-- A request that leaves flows and queue alone. -/
theorem kept_of_same (h : e.Orderly e.queue.waiting) (hs : (r.serve e).seed = e.seed)
    (hf : (r.serve e).flowsDrawn = e.flowsDrawn) (hw : (r.serve e).watchesDrawn = e.watchesDrawn)
    (hflows : (r.serve e).flows = e.flows) (hqueue : (r.serve e).queue = e.queue)
    (hcreated : r.created e = []) (hvisits : r.visits e = []) : r.Kept e where
  order := hqueue ▸ h.congr hs hf hw hflows
  serves := hvisits ▸ .of_lasting fun f hf _ => hflows ▸ hf
  ids := by rw [hflows, hcreated, List.append_nil]
  begun f hf _ _ := .inl (hflows ▸ hf)

/-- A request that adds a flow, which is no watch unless it waits already. -/
theorem kept_of_grown (hflows : (r.serve e).flows = e.flows ++ [f])
    (horder : (r.serve e).Orderly (r.serve e).queue.waiting) (hcreated : r.created e = [f.id])
    (hvisits : r.visits e = []) (hmain : f.watch = none → f.state ≠ .pending) : r.Kept e where
  order := horder
  serves := hvisits ▸ .of_lasting fun f hf _ => hflows ▸ List.mem_append_left _ hf
  ids := by rw [hflows, hcreated, List.map_append, List.map_singleton]
  begun g hg hw hst := by
    rw [hflows] at hg
    rcases List.mem_append.mp hg with hg | hg
    · exact .inl hg
    · obtain rfl := List.mem_singleton.mp hg
      exact absurd hst (hmain hw)

theorem kept_submit (h : e.Orderly e.queue.waiting) (name : String) (tasks : List Task)
    (shared : List (String × String)) : (EngineRequest.submit name tasks shared).Kept e := by
  rcases hsub : e.submit name tasks shared with ⟨error | id, e'⟩
  · have hserve : (EngineRequest.submit name tasks shared).serve e = e := by
      rw [EngineRequest.serve, hsub]
      exact submit_error hsub
    refine h.kept_of_same ?_ ?_ ?_ ?_ ?_ (by rw [EngineRequest.created, hsub]; rfl) rfl
    all_goals rw [hserve]
  · obtain ⟨rfl, budget, rfl⟩ := submit_ok hsub
    have hserve := congrArg Prod.snd hsub
    have hnew := h.fresh.flow e.flowsDrawn (Nat.le_refl _)
    refine kept_of_grown (f := dormantFlow _ name tasks shared) (congrArg flows hserve) ?_
      (by rw [EngineRequest.created, hsub]; rfl) rfl fun _ => nofun
    rw [EngineRequest.serve, hserve]
    refine List.append_nil e.queue.waiting ▸ h.grow rfl ?_ hnew (.inl ⟨rfl, rfl⟩) nofun
    refine h.fresh.append rfl rfl (Nat.le_succ _) (Nat.le_refl _) fun f hf => ?_
    exact ⟨.flow, _, congrArg Flow.id (List.mem_singleton.mp hf), fun _ => Nat.lt_succ_self _,
      nofun⟩

theorem kept_submitWatch (h : e.Orderly e.queue.waiting) (w : Watch) :
    (EngineRequest.submitWatch w).Kept e := by
  rcases hsub : e.submitWatch w with ⟨error | id, e'⟩
  · have hserve : (EngineRequest.submitWatch w).serve e = e := by
      rw [EngineRequest.serve, hsub]
      exact submitWatch_error hsub
    refine h.kept_of_same ?_ ?_ ?_ ?_ ?_ (by rw [EngineRequest.created, hsub]; rfl) rfl
    all_goals rw [hserve]
  · obtain ⟨m, hm⟩ := submitWatch_known hsub
    obtain ⟨rfl, rfl⟩ := submitWatch_ok hsub
    have hserve := congrArg Prod.snd hsub
    have hnew := h.fresh.watch e.watchesDrawn (Nat.le_refl _)
    refine kept_of_grown (f := watchFlow _ w) (congrArg flows hserve) ?_
      (by rw [EngineRequest.created, hsub]; rfl) rfl nofun
    rw [EngineRequest.serve, hserve]
    refine h.grow rfl ?_ hnew (.inr ⟨rfl, rfl⟩) fun x hx => ?_
    · refine h.fresh.append rfl rfl (Nat.le_refl _) (Nat.le_succ _) fun f hf => ?_
      exact ⟨.watch, _, congrArg Flow.id (List.mem_singleton.mp hf), nofun,
        fun _ => Nat.lt_succ_self _⟩
    · obtain rfl := Option.some.inj hx
      exact ⟨m, mem_of_find? hm⟩

theorem kept_start (h : e.Orderly e.queue.waiting) (id : Uuid) :
    (EngineRequest.start id).Kept e := by
  rcases hstart : e.start id with ⟨error | ⟨⟩, e'⟩
  · obtain ⟨budget, rfl⟩ := start_error hstart
    have hserve := congrArg Prod.snd hstart
    refine h.kept_of_same ?_ ?_ ?_ ?_ ?_ rfl rfl
    all_goals rw [EngineRequest.serve, hserve]
  · obtain ⟨f, hfind, hst⟩ := start_dormant hstart
    obtain ⟨hf, rfl⟩ := mem_of_find? hfind
    obtain ⟨budget, he⟩ := start_ok hstart
    have hserve : (EngineRequest.start f.id).serve e =
        { e.modify f.id fun f => { f with state := .pending } with
          queue := e.queue.enqueue f.id, startBudget := budget } := by
      rw [EngineRequest.serve, hstart, he]
    constructor
    case order =>
      rw [hserve]
      exact (h.queue_dormant hf hst).congr rfl rfl rfl rfl
    case serves =>
      refine .of_lasting fun g hg hover => ?_
      rw [hserve]
      refine mem_modify_of_ne hg fun hid => ?_
      rw [h.eq_of_id hg hf hid, hst] at hover
      exact nomatch hover
    case ids =>
      have hids : (e.modify f.id fun g => { g with state := .pending }).flows.map Flow.id =
          e.flows.map Flow.id := map_id_modify fun _ => rfl
      rw [hserve]
      exact hids.trans (List.append_nil _).symm
    case begun =>
      intro g hg _ _
      rw [hserve] at hg
      rcases modify_cases hg with ⟨hg, -⟩ | ⟨g, -, hid, rfl⟩
      · exact .inl hg
      · right
        simp only [hid, hstart, and_self]

theorem kept_cancel (h : e.Orderly e.queue.waiting) (id : Uuid) (reason : String) :
    (EngineRequest.cancel id reason).Kept e := by
  have hcases : (e.cancel id reason).2 = e ∨ _ := cancel_cases
  rcases hcases with hserve | ⟨f, hfind, hopen, hserve⟩
  · refine h.kept_of_same ?_ ?_ ?_ ?_ ?_ rfl rfl
    all_goals rw [EngineRequest.serve, hserve]
  · have hc := ends_cancelFlow reason
    obtain ⟨hf, rfl⟩ := mem_of_find? hfind
    constructor
    case order =>
      rw [EngineRequest.serve, hserve]
      exact h.ends hc
    case serves =>
      refine .of_lasting fun g hg hover => ?_
      rw [EngineRequest.serve, hserve]
      refine mem_modify_of_ne hg fun hid => ?_
      rw [h.eq_of_id hg hf hid, hopen] at hover
      exact nomatch hover
    case ids =>
      rw [EngineRequest.serve, hserve]
      exact hc.map_id_modify.trans (List.append_nil _).symm
    case begun =>
      intro g' hg' _ hst
      rw [EngineRequest.serve, hserve] at hg'
      obtain ⟨g, hg, -, -, -, hsame⟩ := hc.of_mem_modify hg'
      exact .inl (hsame (by rw [hst]; rfl) ▸ hg)

theorem kept_run {σ : Type} (h : e.Orderly e.queue.waiting) (handlers : Handlers σ) (s : σ) :
    (EngineRequest.run handlers s).Kept e := by
  obtain ⟨sum, e', s', hrun, hworks, horder⟩ := Worker.runUntilIdle_works handlers h s
  have hserve : (EngineRequest.run handlers s).serve e = e' := by rw [EngineRequest.serve, hrun]
  constructor
  case order =>
    rw [hserve]
    exact horder
  case serves =>
    rw [hserve]
    exact hworks.toServes
  case ids =>
    rw [hserve]
    exact hworks.ids.trans (List.append_nil _).symm
  case begun =>
    intro f hf _ hst
    rw [hserve] at hf
    exact .inl (hworks.untouched f hf (by rw [hst]; rfl))

/-- **Every request keeps the order and what is over.** -/
theorem kept (h : e.Orderly e.queue.waiting) : ∀ r : EngineRequest, r.Kept e
  | .submit name tasks shared => h.kept_submit name tasks shared
  | .submitWatch w => h.kept_submitWatch w
  | .start id => h.kept_start id
  | .cancel id reason => h.kept_cancel id reason
  | .limitSubmissions _ => h.kept_of_same rfl rfl rfl rfl rfl rfl rfl
  | .limitStarts _ => h.kept_of_same rfl rfl rfl rfl rfl rfl rfl
  | .refuseWatches _ => h.kept_of_same rfl rfl rfl rfl rfl rfl rfl
  | .run handlers s => h.kept_run handlers s

end Engine.Orderly

/-! ## Histories -/

namespace Engine

variable {e : Engine}

/-- **What requests keep, one after the other.** -/
theorem orderly_after : ∀ (rs : List EngineRequest) {e : Engine}, e.Orderly e.queue.waiting →
    (e.after rs).Orderly (e.after rs).queue.waiting ∧ e.Serves (e.after rs) (visitsOver rs e) ∧
      (e.after rs).flows.map Flow.id = e.flows.map Flow.id ++ createdOver rs e
  | [], e, h => ⟨h, (Works.refl e).toServes, (List.append_nil _).symm⟩
  | r :: rs, e, h => by
    have hkept := h.kept r
    obtain ⟨horder, hserves, hids⟩ := orderly_after rs hkept.order
    refine ⟨horder, hkept.serves.trans hserves, ?_⟩
    rw [createdOver, ← List.append_assoc, ← hkept.ids]
    exact hids

/-- A pending flow that is no watch was started, if none was pending at first. -/
theorem started_after (h : e.Orderly e.queue.waiting) (hnone : e.flows = [])
    (rs : List EngineRequest) : ∀ f ∈ (e.after rs).flows, f.watch = none → f.state = .pending →
      StartedIn rs e f.id := by
  -- by the last request: a flow was pending before it, or was started by it
  induction rs using List.reverseRecOn with
  | nil =>
    intro f hf
    rw [after, List.foldl_nil, hnone] at hf
    exact absurd hf List.not_mem_nil
  | append_singleton rs r ih =>
    intro f hf hw hst
    rw [after_concat] at hf
    have hkept := (orderly_after rs h).1.kept r
    rcases hkept.begun f hf hw hst with hf | ⟨rfl, hok⟩
    · exact (ih f hf hw hst).append [r]
    · exact ⟨rs, [], rfl, hok⟩

/-- What holds of an engine after any history, in which `e` is the engine at the start. -/
structure Governed (e : Engine) (rs : List EngineRequest) : Prop where
  /-- The flows are those that were created, in this order. -/
  created : (e.after rs).flows.map Flow.id = createdOver rs e
  ids_nodup : ((e.after rs).flows.map Flow.id).Nodup
  queue_nodup : (e.after rs).queue.waiting.Nodup
  queue_begun : ∀ id ∈ (e.after rs).queue.waiting,
    ∃ f, (e.after rs).find? id = some f ∧ f.state ≠ .dormant
  pending_queued : ∀ f ∈ (e.after rs).flows, f.state = .pending →
    f.id ∈ (e.after rs).queue.waiting
  idle : ∀ f ∈ (e.after rs).flows, f.state ≠ .running
  /-- A flow that is over is the same after whatever comes next. -/
  lasting : ∀ id f, (e.after rs).find? id = some f → f.state.isTerminal = true →
    ∀ more, (e.after (rs ++ more)).find? id = some f
  /-- Passes succeed. Each visit with calls was due to a flow that was pending before the pass, after
  it was started unless it is a watch, and that is over by now. -/
  passes : ∀ {σ : Type} (before rest : List EngineRequest) (h : Handlers σ) (s : σ),
    rs = before ++ .run h s :: rest →
    (∃ sum, (Worker.runUntilIdle h (e.after before) s).1 = .ok sum) ∧
      ∀ v ∈ Worker.visits h (e.after before) s, v.called = true →
        ∃ f, v.Due f (e.after rs).flows ∧ f ∈ (e.after before).flows ∧
          (f.watch = none → StartedIn before e f.id)
  /-- No two visits with calls, in one pass or in several, are of one flow. -/
  once : (((visitsOver rs e).filter Visit.called).map Visit.flow).Nodup

/-- **Whatever is asked of an engine that starts empty**, its flows are those that were created, each
pending one waits once, none is left running, and those that are over stay as they are. The calls
that the handlers see are those of visits, each of which is due, and none comes twice. Nor does
marking a flow as running while its tasks are tried change anything. -/
theorem governed (seed : Nat) (rs : List EngineRequest) :
    Governed (.empty seed) rs ∧
      (∀ {σ : Type} (h : Handlers σ) (e : Engine) (s : σ) (log : List Call),
        Worker.runUntilIdle h.noting e (s, log) =
          ((Worker.runUntilIdle h e s).1, (Worker.runUntilIdle h e s).2.1,
            (Worker.runUntilIdle h e s).2.2,
            log ++ (Worker.visits h e s).flatMap Visit.calls)) ∧
      ∀ {σ : Type} (h : Handlers σ) (e : Engine) (s : σ) (f : Flow), e.get f.id = .ok f →
        f.state.isTerminal = false → f.watch = none →
        Worker.runItem h f.id e s = Worker.runMain h f e s := by
  have hempty : (Engine.empty seed).Orderly (Engine.empty seed).queue.waiting := .empty seed
  obtain ⟨horder, hserves, hids⟩ := orderly_after rs hempty
  refine ⟨?_, Worker.runUntilIdle_noting, fun h _ _ _ => Worker.runItem_main h⟩
  constructor
  case created => exact hids
  case ids_nodup => exact horder.ids_nodup
  case queue_nodup => exact horder.queue_nodup
  case queue_begun =>
    intro id hid
    obtain ⟨f, hf, rfl, hst⟩ := horder.known id hid
    exact ⟨f, horder.find? hf, hst⟩
  case pending_queued => exact horder.queued
  case idle => exact horder.idle
  case lasting =>
    intro id f hfind hover more
    obtain ⟨hf, rfl⟩ := mem_of_find? hfind
    obtain ⟨horder', hserves', -⟩ := orderly_after more horder
    rw [after_append]
    exact horder'.find? (hserves'.lasting f hf hover)
  case passes =>
    rintro σ before rest h s rfl
    obtain ⟨hbefore, -, -⟩ := orderly_after before hempty
    obtain ⟨sum, e', s', hrun, hworks, -⟩ := Worker.runUntilIdle_works h hbefore s
    refine ⟨⟨sum, congrArg Prod.fst hrun⟩, fun v hv hcalled => ?_⟩
    have hall : v ∈ visitsOver (before ++ .run h s :: rest) (.empty seed) := by
      rw [visitsOver_append]
      exact List.mem_append_right _ (List.mem_append_left _ hv)
    obtain ⟨f, hdue⟩ := hserves.due v hall hcalled
    have hold : f ∈ ((Engine.empty seed).after before).flows :=
      hworks.seen v hv f (mem_of_find? hdue.found).1 (by rw [hdue.pending]; rfl)
    exact ⟨f, hdue, hold, fun hw => started_after hempty rfl before f hold hw hdue.pending⟩
  case once => exact hserves.once

/-- The watch of the first flow that an engine creates. -/
def firstWatch : Watch :=
  { flow := Uuid.drawn 0 .flow 0, resourceId := "lb-1", resourceKind := "load_balancer", subIds := [],
    subKind := none, purpose := "create_listener" }

/-- A flow is watched before it is started, so that its watch waits for a round. -/
def watchedBeforeStart : List EngineRequest :=
  [.submit "import" [{ id := "1", action := "create", params := .null, retry := .standard,
                       dependsOn := none }] [],
    .submitWatch firstWatch, .start firstWatch.flow,
    .run { perform := Worker.acceptAll, announce := fun _ _ s => (.ok (), s) } ()]

theorem governed_watchedBeforeStart :
    (visitsOver watchedBeforeStart (.empty 0)).map Visit.calls =
        [[], [.perform "create" .null], [.announce firstWatch .success]] ∧
      Governed (.empty 0) watchedBeforeStart :=
  -- the recursion of rounds is on the length of the queue, which plain unfolding stops at
  ⟨by with_unfolding_all rfl, (governed 0 watchedBeforeStart).1⟩

end Engine

end BalancerImport
