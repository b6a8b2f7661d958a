import BalancerImport.Proofs.Flow.Dependents
import BalancerImport.Proofs.Flow.History

/-!
# Started flows in a pass

What a pass does to the flows that were started before it. Each gets one turn, in which its tasks are
tried one after the other, and is over afterwards.

* `Engine.Prepared`: what is not over has tasks that the engine accepted and that were not tried yet;
  `Engine.prepared_after`: so it is after any history;
* `Worker.ranFlow`: a flow with its tasks as they ended; `Worker.Served`: a flow that got its turn;
* `Worker.runRound_served`, `Worker.runUntilIdle_served`: flows get their turns in a round and a pass;
* `Flow.Ran`: a flow after its tasks were tried, and the calls that were made for them;
* **`Engine.runUntilIdle_ran`**: so are the flows after a pass that were started before it.
-/

namespace BalancerImport

/-! ## Tasks before they are tried -/

namespace Engine

variable {e : Engine}

/-- Flows that are no watches and not over have tasks that were accepted and not tried yet. -/
def Prepared (e : Engine) : Prop :=
  ∀ f ∈ e.flows, f.watch = none → f.state.isTerminal = false →
    ∃ tasks, checkChain tasks = .ok () ∧ f.tasks = tasks.map Task.start

/-- One more flow. -/
theorem Prepared.snoc {e' : Engine} {g : Flow} (h : e.Prepared) (hflows : e'.flows = e.flows ++ [g])
    (hg : g.watch = none → ∃ tasks, checkChain tasks = .ok () ∧ g.tasks = tasks.map Task.start) :
    e'.Prepared := by
  intro f hf hw hopen
  rcases List.mem_append.mp (hflows ▸ hf) with hf | hf
  · exact h f hf hw hopen
  · obtain rfl := List.mem_singleton.mp hf
    exact hg hw

/-- **Every request keeps the tasks of flows that are not over**, and new ones are accepted. -/
theorem Prepared.serve (h : e.Prepared) (ho : e.Orderly e.queue.waiting) :
    ∀ r : EngineRequest, (r.serve e).Prepared
  | .submit name tasks shared => by
    rw [EngineRequest.serve]
    rcases hsub : e.submit name tasks shared with ⟨error | id, e'⟩
    · exact submit_error hsub ▸ h
    · obtain ⟨-, budget, rfl⟩ := submit_ok hsub
      exact h.snoc rfl fun _ => ⟨tasks, submit_checked hsub, rfl⟩
  | .submitWatch w => by
    rw [EngineRequest.serve]
    rcases hsub : e.submitWatch w with ⟨error | id, e'⟩
    · exact submitWatch_error hsub ▸ h
    · obtain ⟨-, rfl⟩ := submitWatch_ok hsub
      exact h.snoc rfl fun hw => absurd hw (by simp [watchFlow])
  | .start id => by
    rw [EngineRequest.serve]
    rcases hstart : e.start id with ⟨error | ⟨⟩, e'⟩
    · obtain ⟨budget, rfl⟩ := start_error hstart
      exact h
    · obtain ⟨budget, rfl⟩ := start_ok hstart
      obtain ⟨g, hg, hdormant⟩ := start_dormant hstart
      intro f hf hw hopen
      rcases modify_cases hf with ⟨hf, -⟩ | ⟨g', hg', rfl, rfl⟩
      · exact h f hf hw hopen
      · obtain rfl := Option.some.inj (hg.symm.trans (ho.find? hg'))
        exact h g hg' hw (by rw [hdormant]; rfl)
  | .cancel id reason => by
    rw [EngineRequest.serve]
    have hcases : (e.cancel id reason).2 = e ∨ _ := cancel_cases
    rcases hcases with hserve | ⟨-, -, -, hserve⟩
    · rwa [hserve]
    · rw [hserve]
      intro f hf hw hopen
      obtain ⟨g, hg, -, -, -, hsame⟩ := (ends_cancelFlow reason).of_mem_modify hf
      obtain rfl := hsame hopen
      exact h f hg hw hopen
  | .limitSubmissions _ => h
  | .limitStarts _ => h
  | .refuseWatches _ => h
  | .run handlers s => by
    obtain ⟨sum, e', s', hrun, hworks, -⟩ := Worker.runUntilIdle_works handlers ho s
    rw [EngineRequest.serve, hrun]
    exact fun f hf hw hopen => h f (hworks.untouched f hf hopen) hw hopen

theorem prepared_after (seed : Nat) (rs : List EngineRequest) :
    ((empty seed).after rs).Prepared := by
  induction rs using List.reverseRecOn with
  | nil => exact fun f hf => absurd hf List.not_mem_nil
  | append_singleton rs r ih =>
    rw [after_concat]
    exact ih.serve (orderly_after rs (.empty seed)).1 r

end Engine

/-! ## Turns -/

/-- Whether a turn is the turn of a flow. -/
def Turn.isOf {σ : Type} (id : Uuid) (t : Turn σ) : Bool := t.flow == id

namespace Worker

variable {σ ρ : Type} (h : Handlers σ) (w : Scribe ρ) {e e' : Engine} {s s' : σ} {id : Uuid}
  {ids kept rest queue : List Uuid} {f g : Flow} {fate : Fate} {ts : List (Turn σ)}

/-- A flow with its tasks as they end. -/
def ranFlow (f : Flow) (s : σ) : Flow :=
  { f with tasks := (runTasks h [] f.tasks s).1, state := outcome (runTasks h [] f.tasks s).1 }

/-- A flow that got its turn, and no other one. -/
structure Served (f : Flow) (ts : List (Turn σ)) (e' : Engine) (turn : Turn σ) : Prop where
  once : ts.filter (Turn.isOf f.id) = [turn]
  flow : turn.flow = f.id
  found : turn.engine.get f.id = .ok f
  ended : ranFlow h f turn.state ∈ e'.flows

/-- What is written in the turn of a flow is written about its tasks. -/
theorem written_main {turn : Turn σ} (hid : turn.flow = f.id) (hf : turn.engine.get f.id = .ok f)
    (ho : f.state.isTerminal = false) (hw : f.watch = none) :
    written h w turn = (runTasks (h.logging w) [] f.tasks (turn.state, [])).2.2 := by
  rw [written, writtenOn, hid, runItem_main (h.logging w) hf ho hw, runMain_eq]

/-- Other flows are left alone. -/
theorem Fared.mem_of_ne (hfared : Fared h g e s (.ok fate, e', s')) (hf : f ∈ e.flows)
    (hne : f.id ≠ g.id) : f ∈ e'.flows := by
  cases hfared with
  | dropped hover => exact hf
  | requeued hopen hw hg hwaits => exact hf
  | finished hopen hw hg hended => exact Engine.mem_modify_of_ne hf hne
  | ran hopen hw => exact Engine.mem_modify_of_ne hf hne

/-- A flow that is no watch has its turn, and does not go back to the queue. -/
theorem Fared.main (hfared : Fared h f e s (.ok fate, e', s')) (hf : f ∈ e.flows)
    (ho : f.state.isTerminal = false) (hw : f.watch = none) :
    fate ≠ .requeued ∧ ranFlow h f s ∈ e'.flows := by
  cases hfared with
  | dropped hover => exact nomatch ho.symm.trans hover
  | requeued hopen hw' hg hwaits => exact nomatch hw.symm.trans hw'
  | finished hopen hw' hg hended => exact nomatch hw.symm.trans hw'
  | ran hopen hw' => exact ⟨nofun, Engine.changed_mem_modify hf rfl⟩

theorem roundTurns_cons (hitem : runItem h id e s = (.ok fate, e', s')) :
    roundTurns h (id :: rest) e s =
      { flow := id, engine := e, state := s } :: roundTurns h rest e' s' := by rw [roundTurns, hitem]

theorem flow_mem_of_roundTurns : ∀ {ids : List Uuid} {e : Engine} {s : σ},
    ∀ t ∈ roundTurns h ids e s, t.flow ∈ ids
  | [], _, _ => nofun
  | id :: rest, e, s => by
    intro t ht
    rcases List.mem_cons.mp ht with rfl | ht
    · exact List.mem_cons_self
    · rcases hitem : runItem h id e s with ⟨_ | fate, e', s'⟩
      · rw [hitem] at ht
        exact absurd ht List.not_mem_nil
      · rw [hitem] at ht
        exact List.mem_cons_of_mem _ (flow_mem_of_roundTurns t ht)

theorem filter_roundTurns_of_not_mem (hid : id ∉ ids) :
    (roundTurns h ids e s).filter (Turn.isOf id) = [] := by
  refine List.filter_eq_nil_iff.mpr fun t ht he => hid ?_
  exact eq_of_beq he ▸ flow_mem_of_roundTurns h t ht

theorem filter_passTurns_of_not_mem : ∀ {queue : List Uuid} {p : Pass σ}, p.engine.Orderly queue →
    id ∉ queue → (passTurns h queue p).filter (Turn.isOf id) = []
  | queue, p, ho, hid => by
    obtain ⟨again, p', hround, -, horder, hsub⟩ :=
      runRound_works h queue [] p (by rwa [List.append_nil])
    rw [List.append_nil] at hsub
    rw [passTurns, hround, List.filter_append, filter_roundTurns_of_not_mem h hid]
    by_cases hshort : again.length < queue.length
    · simp only [if_pos hshort, List.nil_append]
      exact filter_passTurns_of_not_mem horder fun hm => hid (hsub hm)
    · simp only [if_neg hshort]
      rfl
termination_by queue => queue.length

/-- **A started flow gets its turn in a round**, and does not go back to the queue. -/
theorem runRound_served (hp : f.state = .pending) (hw : f.watch = none) :
    ∀ {ids kept : List Uuid} {p : Pass σ}, p.engine.Orderly (ids ++ kept) → f ∈ p.engine.flows →
      f.id ∈ ids → ∃ again p' turn, runRound h ids kept p = (.ok again, p') ∧ f.id ∉ again ∧
        Served h f (roundTurns h ids p.engine p.state) p'.engine turn
  | [], _, _, _, _, hid => absurd hid List.not_mem_nil
  | id :: rest, kept, p, ho, hf, hid => by
    have hopen : f.state.isTerminal = false := by rw [hp]; rfl
    have ho : p.engine.Orderly (id :: (rest ++ kept)) := ho
    obtain ⟨fate, e', s', hitem, -, hnext⟩ := runItem_works h (s := p.state) ho
    obtain ⟨g, hg, rfl, -⟩ := ho.known id List.mem_cons_self
    have hfared : Fared h g p.engine p.state (.ok fate, e', s') :=
      hitem ▸ runItem_fared h (Engine.get_of_mem ho hg) (Engine.get_watched ho hg)
    rw [runRound, hitem, roundTurns_cons h hitem]
    by_cases he : f.id = g.id
    · -- its tasks are tried, and it is over when the others of the round get their turns
      obtain rfl := ho.eq_of_id hf hg he
      obtain ⟨hfate, hran⟩ := hfared.main h hf hopen hw
      rw [if_neg hfate] at hnext
      have hgone : f.id ∉ rest ++ kept := (List.nodup_cons.mp ho.queue_nodup).1
      obtain ⟨again, p', hround, hworks, -, hsub⟩ := runRound_works h rest kept
        { engine := e', summary := fate.count p.summary, state := s' } hnext
      refine ⟨again, p', { flow := f.id, engine := p.engine, state := p.state }, ?_,
        fun hm => hgone (hsub hm), ?_, rfl, Engine.get_of_mem ho hf,
        hworks.lasting _ hran (isTerminal_outcome _)⟩
      · simp only [if_neg hfate]
        exact hround
      · rw [List.filter_cons_of_pos (by simp [Turn.isOf]), filter_roundTurns_of_not_mem h
          fun hm => hgone (List.mem_append_left kept hm)]
    · obtain ⟨again, p', turn, hround, hgone, hserved⟩ := runRound_served hp hw
        (p := { engine := e', summary := fate.count p.summary, state := s' }) (next_of_fate hnext)
        (hfared.mem_of_ne h hf he) ((List.mem_cons.mp hid).resolve_left he)
      refine ⟨again, p', turn, hround, hgone, { hserved with once := ?_ }⟩
      have hskip : ¬ (Turn.isOf f.id
          { flow := g.id, engine := p.engine, state := p.state : Turn σ } = true) :=
        fun h => he (eq_of_beq h).symm
      rw [List.filter_cons_of_neg hskip]
      exact hserved.once

/-- **A started flow gets its turn in a pass.** -/
theorem runRounds_served (hp : f.state = .pending) (hw : f.watch = none) {queue : List Uuid}
    {p : Pass σ} (ho : p.engine.Orderly queue) (hf : f ∈ p.engine.flows) :
    ∃ p' turn, runRounds h queue p = (.ok (), p') ∧
      Served h f (passTurns h queue p) p'.engine turn := by
  have hqueue : p.engine.Orderly (queue ++ []) := by rwa [List.append_nil]
  obtain ⟨again, p₁, turn, hround, hgone, hserved⟩ :=
    runRound_served h hp hw hqueue hf (ho.queued f hf hp)
  obtain ⟨_, _, hround', -, horder, -⟩ := runRound_works h queue [] p hqueue
  obtain ⟨he, rfl⟩ := Prod.mk.inj (hround.symm.trans hround')
  obtain rfl := Except.ok.inj he
  rw [runRounds, passTurns, hround]
  by_cases hshort : again.length < queue.length
  · obtain ⟨p', hrounds, hworks, -⟩ := runRounds_works h again p₁ horder
    simp only [if_pos hshort]
    refine ⟨p', turn, hrounds, { hserved with once := ?_, ended := ?_ }⟩
    · rw [List.filter_append, hserved.once, filter_passTurns_of_not_mem h horder hgone]
      rfl
    · exact hworks.lasting _ hserved.ended (isTerminal_outcome _)
  · simp only [if_neg hshort, List.append_nil]
    exact ⟨_, turn, rfl, { hserved with }⟩

/-- **All started flows get their turns in a pass**, one each. -/
theorem runUntilIdle_served (ho : e.Orderly e.queue.waiting) (s : σ) :
    ∃ sum e' s', runUntilIdle h e s = (.ok sum, e', s') ∧ e'.Orderly e'.queue.waiting ∧
      ∀ f ∈ e.flows, f.watch = none → f.state = .pending →
        ∃ turn, Served h f (turns h e s) e' turn := by
  obtain ⟨p, hrounds, -, horder⟩ := runRounds_works h e.queue.waiting
    { engine := e, summary := ⟨0, 0, 0, 0⟩, state := s } ho
  refine ⟨{ p.summary with left := p.engine.queue.size }, p.engine, p.state, ?_, horder, ?_⟩
  · rw [runUntilIdle, hrounds]
  · intro f hf hw hp
    obtain ⟨p', turn, hrounds', hserved⟩ := runRounds_served h hp hw
      (p := { engine := e, summary := ⟨0, 0, 0, 0⟩, state := s }) ho hf
    obtain ⟨-, rfl⟩ := Prod.mk.inj (hrounds.symm.trans hrounds')
    exact ⟨turn, hserved⟩

theorem outcome_records (runs : List TaskRun) : outcome (runs.map TaskRun.record) =
    if ∀ r ∈ runs, r.record.state = .success then .success else .failed := by
  simp [outcome, List.all_map]

end Worker

/-! ## Flows after a pass -/

/-- A flow `f'` after a pass with turns `ts`, which was `f` before. Its tasks were tried as `runs`
tells. -/
structure Flow.Ran {σ : Type} (h : Handlers σ) (ts : List (Turn σ)) (tasks : List Task)
    (runs : List TaskRun) (f f' : Flow) : Prop where
  accepted : checkChain tasks = .ok ()
  started : f.tasks = tasks.map Task.start
  ended : TasksEnded tasks runs
  /-- It got one turn, in which its tasks were tried one after the other. -/
  calls : ∃ turn, ts.filter (Turn.isOf f.id) = [turn] ∧
    Worker.written h .tries turn = runs.flatMap TaskRun.tries
  changed : f' = { f with tasks := runs.map TaskRun.record, state := f'.state }
  state : f'.state = if ∀ r ∈ runs, r.record.state = .success then .success else .failed

namespace Worker

variable {σ : Type} (h : Handlers σ) {f : Flow} {ts : List (Turn σ)} {e' : Engine} {turn : Turn σ}

/-- **A flow after its turn.** -/
theorem Served.ran (hserved : Served h f ts e' turn) (hw : f.watch = none)
    (ho : f.state.isTerminal = false) {tasks : List Task} (hchain : checkChain tasks = .ok ())
    (htasks : f.tasks = tasks.map Task.start) :
    f.Ran h ts tasks (taskRuns h [] f.tasks turn.state) (ranFlow h f turn.state) where
  accepted := hchain
  started := htasks
  ended := htasks ▸ tasksEnded h hchain turn.state
  calls := by
    refine ⟨turn, hserved.once, ?_⟩
    rw [written_main h .tries hserved.flow hserved.found ho hw, runTasks_tries]
  changed := by rw [ranFlow, ← runTasks_records]
  state := by rw [ranFlow, runTasks_records, outcome_records]

end Worker

namespace Engine

/-- **Whatever an engine was asked, a pass tries the tasks of every started flow** as `Flow.Ran` says,
however its calls are answered, and makes the calls for tasks turn by turn. -/
theorem runUntilIdle_ran (seed : Nat) (rs : List EngineRequest) {σ : Type} (h : Handlers σ) (s : σ) :
    ∃ sum e' s', Worker.runUntilIdle h ((empty seed).after rs) s = (.ok sum, e', s') ∧
      Worker.runUntilIdle (h.logging .tries) ((empty seed).after rs) (s, []) = (.ok sum, e', s',
        (Worker.turns h ((empty seed).after rs) s).flatMap (Worker.written h .tries)) ∧
      ∀ f ∈ ((empty seed).after rs).flows, f.watch = none → f.state = .pending →
        ∃ f' tasks runs, e'.find? f.id = some f' ∧
          f.Ran h (Worker.turns h ((empty seed).after rs) s) tasks runs f' := by
  have hbefore : ((empty seed).after rs).Orderly ((empty seed).after rs).queue.waiting :=
    (orderly_after rs (.empty seed)).1
  obtain ⟨sum, e', s', hrun, horder, hserved⟩ := Worker.runUntilIdle_served h hbefore s
  refine ⟨sum, e', s', hrun, ?_, fun f hf hw hp => ?_⟩
  · rw [Worker.runUntilIdle_logging, hrun, List.nil_append]
  · have ho : f.state.isTerminal = false := by rw [hp]; rfl
    obtain ⟨tasks, hchain, htasks⟩ := prepared_after seed rs f hf hw ho
    obtain ⟨turn, hturn⟩ := hserved f hf hw hp
    have hfind := horder.find? hturn.ended
    exact ⟨_, tasks, _, hfind, hturn.ran h hw ho hchain htasks⟩

/-- Two chains of tasks, of which the first fails at its second task. -/
def twoChains : List Task :=
  let task id action dependsOn : Task :=
    { id := id, action := action, params := .null, retry := .standard, dependsOn := dependsOn }
  [task "1" "create" none, task "2" "refuse" (some "1"), task "3" "create" (some "2"),
    task "4" "create" none]

/-- Refuses one action. -/
def refusing : Handlers Unit where
  perform action _ s := (if action = "refuse" then .error "no" else .ok (), s)
  announce _ _ s := (.ok (), s)

/-- The two chains, submitted and started. -/
def startedChains : List EngineRequest :=
  [.submit "import" twoChains [], .start (Uuid.drawn 0 .flow 0)]

theorem runUntilIdle_ran_startedChains :
    ((Worker.runUntilIdle refusing ((empty 0).after startedChains) ()).2.1.flows.map fun f =>
        f.tasks.map fun t => (t.state, t.attempts)) =
      [[(.success, 1), (.failed, 3), (.canceled, 0), (.success, 1)]] ∧
    ∃ sum e' s', Worker.runUntilIdle refusing ((empty 0).after startedChains) () =
        (.ok sum, e', s') ∧
      ∀ f ∈ ((empty 0).after startedChains).flows, f.watch = none → f.state = .pending →
        ∃ f' tasks runs, e'.find? f.id = some f' ∧
          f.Ran refusing (Worker.turns refusing ((empty 0).after startedChains) ()) tasks runs f' := by
  refine ⟨by with_unfolding_all rfl, ?_⟩
  obtain ⟨sum, e', s', hrun, -, hran⟩ := runUntilIdle_ran 0 startedChains refusing ()
  exact ⟨sum, e', s', hrun, hran⟩

end Engine

end BalancerImport
