import BalancerImport.Flow.Worker

/-!
# Visits of the worker

A pass of the worker visits the flows of the queue one after the other, and calls its handlers while
it works on them. Handlers that write about their calls tell what a pass did to whom.

* `Scribe`, `Handlers.logging`: what is written about calls, and handlers that write;
* `Call`, `Handlers.noting`: calls, and handlers that note theirs;
* `Turn`, `Worker.turns`: the turns that the flows of the queue get in a pass;
* **`Worker.runUntilIdle_logging`**: writing changes nothing, and what is written in a pass is what is
  written in its turns in order;
* `Visit`, `Worker.visits`: the turns of a pass as visits, each with the calls that were made;
* `Worker.performs_of_runTasks`: what is called for the tasks of a flow;
* **`Worker.runUntilIdle_noting`**: what is noted in a pass are the calls of its visits in order.
-/

namespace BalancerImport

/-! ## Handlers that write -/

/-- What is written about calls of handlers, given their answers. -/
structure Scribe (ρ : Type) where
  perform : String → Json → Except String Unit → List ρ
  announce : Watch → FlowState → Except String Unit → List ρ

/-- Handlers that write about their calls. -/
def Handlers.logging {σ ρ : Type} (h : Handlers σ) (w : Scribe ρ) : Handlers (σ × List ρ) where
  perform action params s :=
    let (answer, own) := h.perform action params s.1
    (answer, own, s.2 ++ w.perform action params answer)
  announce x state s :=
    let (answer, own) := h.announce x state s.1
    (answer, own, s.2 ++ w.announce x state answer)

/-- A call of a handler. -/
inductive Call where
  /-- A task was tried. -/
  | perform (action : String) (params : Json)
  /-- The end of a watched flow was announced. -/
  | announce (w : Watch) (state : FlowState)

/-- The calls themselves. -/
def Scribe.calls : Scribe Call where
  perform action params _ := [.perform action params]
  announce w state _ := [.announce w state]

/-- Handlers that add their calls to a list. -/
def Handlers.noting {σ : Type} (h : Handlers σ) : Handlers (σ × List Call) := h.logging .calls

/-- A flow that was taken from the queue: the engine at that moment, and the calls that were made
while the worker worked on it. -/
structure Visit where
  flow : Uuid
  engine : Engine
  calls : List Call

/-- The turn of a flow that was taken from the queue: the engine and the state of the handlers at that
moment. -/
structure Turn (σ : Type) where
  flow : Uuid
  engine : Engine
  state : σ

namespace Worker

variable {σ ρ : Type} (h : Handlers σ) (w : Scribe ρ)

/-! ## Writing about one flow -/

theorem logging_perform (action : String) (params : Json) (s : σ) (log : List ρ) :
    (h.logging w).perform action params (s, log) =
      ((h.perform action params s).1, (h.perform action params s).2,
        log ++ w.perform action params (h.perform action params s).1) := rfl

theorem logging_announce (x : Watch) (state : FlowState) (s : σ) (log : List ρ) :
    (h.logging w).announce x state (s, log) =
      ((h.announce x state s).1, (h.announce x state s).2,
        log ++ w.announce x state (h.announce x state s).1) := rfl

theorem attempt_logging : ∀ (more : Nat) (t : TaskRecord) (s : σ) (log : List ρ),
    attempt (h.logging w) more t (s, log) =
      ((attempt h more t s).1, (attempt h more t s).2,
        log ++ (attempt (h.logging w) more t (s, [])).2.2)
  | 0, _, _, log => by rw [attempt, attempt, attempt, List.append_nil]
  | more + 1, t, s, log => by
    simp only [attempt, logging_perform, List.nil_append]
    rcases h.perform t.task.action t.task.params s with ⟨error | ⟨⟩, own⟩
    · -- both logs go on from the call that was made
      have hrest := attempt_logging more
        { t with state := .failed, attempts := t.attempts + 1, reason := some error } own
      simp only [hrest (log ++ w.perform t.task.action t.task.params (.error error)),
        hrest (w.perform t.task.action t.task.params (.error error)), List.append_assoc]
    · rfl

theorem runTask_logging (ended : List (String × TaskState)) (t : TaskRecord) (s : σ)
    (log : List ρ) : runTask (h.logging w) ended t (s, log) =
      ((runTask h ended t s).1, (runTask h ended t s).2,
        log ++ (runTask (h.logging w) ended t (s, [])).2.2) := by
  unfold runTask
  split
  · rw [List.append_nil]
  · exact attempt_logging h w _ t s log

theorem runTask_logging_nil (ended : List (String × TaskState)) (t : TaskRecord) (s : σ) :
    runTask (h.logging w) ended t (s, []) = ((runTask h ended t s).1, (runTask h ended t s).2,
      (runTask (h.logging w) ended t (s, [])).2.2) := by
  rw [runTask_logging h w ended t s [], List.nil_append]

theorem runTasks_logging : ∀ (ended : List (String × TaskState)) (ts : List TaskRecord) (s : σ)
    (log : List ρ), runTasks (h.logging w) ended ts (s, log) =
      ((runTasks h ended ts s).1, (runTasks h ended ts s).2,
        log ++ (runTasks (h.logging w) ended ts (s, [])).2.2)
  | _, [], _, log => by rw [runTasks, runTasks, runTasks, List.append_nil]
  | ended, t :: ts, s, log => by
    simp only [runTasks]
    rw [runTask_logging h w ended t s log]
    have hrest := runTasks_logging (((runTask h ended t s).1.task.id,
      (runTask h ended t s).1.state) :: ended) ts (runTask h ended t s).2
    rw [runTask_logging_nil]
    simp only [hrest (log ++ (runTask (h.logging w) ended t (s, [])).2.2),
      hrest (runTask (h.logging w) ended t (s, [])).2.2, List.append_assoc]

/-- What is written while the worker works on a flow. -/
def writtenOn (id : Uuid) (e : Engine) (s : σ) : List ρ :=
  (runItem (h.logging w) id e (s, [])).2.2.2

/-- The calls that are made while the worker works on a flow. -/
def callsOn (id : Uuid) (e : Engine) (s : σ) : List Call := writtenOn h .calls id e s

theorem runItem_logging (id : Uuid) (e : Engine) (s : σ) (log : List ρ) :
    runItem (h.logging w) id e (s, log) =
      ((runItem h id e s).1, (runItem h id e s).2.1, (runItem h id e s).2.2,
        log ++ writtenOn h w id e s) := by
  unfold writtenOn runItem
  cases hf : e.get id with
  | error error => simp only [List.append_nil]
  | ok f =>
    cases hover : f.state.isTerminal with
    | true => simp only [hover, if_true, List.append_nil]
    | false =>
      cases hwatch : f.watch with
      | none =>
        simp only [hover, Bool.false_eq_true, if_false, hwatch]
        rw [runTasks_logging h w [] f.tasks s log]
      | some x =>
        cases hx : e.get x.flow with
        | error error =>
          simp only [hover, Bool.false_eq_true, if_false, hwatch, hx, List.append_nil]
        | ok watched =>
          cases hended : watched.state.isTerminal with
          | false =>
            simp only [hover, Bool.false_eq_true, if_false, hwatch, hx, hended, List.append_nil]
          | true =>
            simp only [hover, Bool.false_eq_true, if_false, hwatch, hx, hended, if_true,
              logging_announce, List.nil_append]

/-! ## What is called for tasks -/

theorem written_of_attempt : ∀ (more : Nat) (t : TaskRecord) (s : σ),
    ∀ c ∈ (attempt (h.logging w) more t (s, [])).2.2,
      ∃ answer, c ∈ w.perform t.task.action t.task.params answer
  | 0, _, _ => by simp [attempt]
  | more + 1, t, s => by
    simp only [attempt, logging_perform, List.nil_append]
    rcases h.perform t.task.action t.task.params s with ⟨error | ⟨⟩, own⟩
    · intro c hc
      simp only [attempt_logging h w more _ own (w.perform _ _ _)] at hc
      rcases List.mem_append.mp hc with hc | hc
      · exact ⟨_, hc⟩
      · exact (written_of_attempt more _ own c hc :)
    · exact fun c hc => ⟨_, hc⟩

/-- For the tasks of a flow only their actions are called, with their parameters. -/
theorem performs_of_runTasks : ∀ (ended : List (String × TaskState)) (ts : List TaskRecord) (s : σ),
    ∀ c ∈ (runTasks h.noting ended ts (s, [])).2.2,
      ∃ t ∈ ts, c = .perform t.task.action t.task.params
  | _, [], _ => by simp [runTasks]
  | ended, t :: ts, s => by
    intro c hc
    simp only [runTasks, Handlers.noting] at hc
    rw [runTask_logging_nil] at hc
    simp only [runTasks_logging h _ _ ts _ (runTask (h.logging .calls) ended t (s, [])).2.2] at hc
    rcases List.mem_append.mp hc with hc | hc
    · refine ⟨t, List.mem_cons_self, ?_⟩
      unfold runTask at hc
      split at hc
      · exact absurd hc List.not_mem_nil
      · obtain ⟨_, hm⟩ := written_of_attempt h .calls _ t s c hc
        exact List.mem_singleton.mp hm
    · obtain ⟨u, hu, he⟩ := performs_of_runTasks _ ts _ c hc
      exact ⟨u, List.mem_cons_of_mem _ hu, he⟩

/-! ## Passes -/

/-- The turns of a round. -/
def roundTurns : List Uuid → Engine → σ → List (Turn σ)
  | [], _, _ => []
  | id :: rest, e, s =>
    { flow := id, engine := e, state := s } ::
      match runItem h id e s with
      | (.error _, _, _) => []
      | (.ok _, e, s) => roundTurns rest e s

/-- The turns of rounds, until the queue is empty or a round leaves it as long as it was. -/
def passTurns (queue : List Uuid) (p : Pass σ) : List (Turn σ) :=
  roundTurns h queue p.engine p.state ++
    match runRound h queue [] p with
    | (.error _, _) => []
    | (.ok kept, p) => if kept.length < queue.length then passTurns kept p else []
termination_by queue.length

/-- The turns of a pass. -/
def turns (e : Engine) (s : σ) : List (Turn σ) :=
  passTurns h e.queue.waiting
    { engine := e, summary := { succeeded := 0, failed := 0, watches := 0, left := 0 }, state := s }

/-- What is written in a turn. -/
def written (t : Turn σ) : List ρ := writtenOn h w t.flow t.engine t.state

/-- A pass with what was written until now. -/
def Pass.withLog (p : Pass σ) (log : List ρ) : Pass (σ × List ρ) :=
  { engine := p.engine, summary := p.summary, state := (p.state, log) }

theorem runRound_logging : ∀ (ids kept : List Uuid) (p : Pass σ) (log : List ρ),
    runRound (h.logging w) ids kept (p.withLog log) = ((runRound h ids kept p).1,
      (runRound h ids kept p).2.withLog
        (log ++ (roundTurns h ids p.engine p.state).flatMap (written h w)))
  | [], _, _, log => by simp [runRound, roundTurns]
  | id :: rest, kept, p, log => by
    have hitem : runItem (h.logging w) id (p.withLog log).engine (p.withLog log).state =
        ((runItem h id p.engine p.state).1, (runItem h id p.engine p.state).2.1,
          (runItem h id p.engine p.state).2.2, log ++ writtenOn h w id p.engine p.state) :=
      runItem_logging h w id p.engine p.state log
    rw [runRound, hitem, runRound, roundTurns]
    rcases runItem h id p.engine p.state with ⟨_ | fate, e, s⟩
    · simp [Pass.withLog, written]
    · have hrest := runRound_logging rest (if fate = .requeued then kept ++ [id] else kept)
        { engine := e, summary := fate.count p.summary, state := s }
        (log ++ writtenOn h w id p.engine p.state)
      simpa [Pass.withLog, written] using hrest

theorem runRounds_logging : ∀ (queue : List Uuid) (p : Pass σ) (log : List ρ),
    runRounds (h.logging w) queue (p.withLog log) = ((runRounds h queue p).1,
      (runRounds h queue p).2.withLog (log ++ (passTurns h queue p).flatMap (written h w)))
  | queue, p, log => by
    rw [runRounds, runRound_logging, runRounds, passTurns, List.flatMap_append]
    rcases runRound h queue [] p with ⟨_ | kept, p'⟩
    · simp
    · by_cases hshort : kept.length < queue.length
      · simp only [if_pos hshort]
        rw [runRounds_logging kept p', List.append_assoc]
      · simp [if_neg hshort, Pass.withLog]
termination_by queue => queue.length

/-- **Writing changes nothing**, and what is written in a pass is what is written in its turns. -/
theorem runUntilIdle_logging (e : Engine) (s : σ) (log : List ρ) :
    runUntilIdle (h.logging w) e (s, log) =
      ((runUntilIdle h e s).1, (runUntilIdle h e s).2.1, (runUntilIdle h e s).2.2,
        log ++ (turns h e s).flatMap (written h w)) := by
  have hrounds := runRounds_logging h w e.queue.waiting
    { engine := e, summary := { succeeded := 0, failed := 0, watches := 0, left := 0 }, state := s }
    log
  simp only [runUntilIdle, turns]
  simp only [Pass.withLog] at hrounds
  rw [hrounds]
  rcases runRounds h e.queue.waiting { engine := e, summary := ⟨0, 0, 0, 0⟩, state := s } with
    ⟨_ | _, p⟩ <;> rfl

/-! ## Visits -/

/-- A turn as a visit. -/
def visit (t : Turn σ) : Visit :=
  { flow := t.flow, engine := t.engine, calls := callsOn h t.flow t.engine t.state }

/-- The visits of a pass. -/
def visits (e : Engine) (s : σ) : List Visit := (turns h e s).map (visit h)

/-- **A pass makes the calls of its visits in order**, and noting them changes nothing. -/
theorem runUntilIdle_noting (e : Engine) (s : σ) (log : List Call) :
    runUntilIdle h.noting e (s, log) =
      ((runUntilIdle h e s).1, (runUntilIdle h e s).2.1, (runUntilIdle h e s).2.2,
        log ++ (visits h e s).flatMap Visit.calls) := by
  rw [Handlers.noting, runUntilIdle_logging, visits, List.flatMap_map]
  rfl

end Worker

end BalancerImport
