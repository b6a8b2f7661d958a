import BalancerImport.Flow.Engine

/-!
# The worker

A pass of the worker takes flows from the queue until none is left or a round does not get on. Tasks
are tried as often as their policy allows; a watch whose flow is not over goes back to the queue.

* `Handlers`: how tasks are tried and how the end of a watched flow is announced;
* `runTasks`: the tasks of a flow; `runItem`: one flow of the queue; `runRound`: the queue once;
* `runUntilIdle`: a pass, with what it did (`Summary`).
-/

namespace BalancerImport

/-- How tasks are tried, and how the end of a watched flow is announced, with a state of their
own. -/
structure Handlers (σ : Type) where
  /-- Tries an action with its parameters. -/
  perform : String → Json → σ → Except String Unit × σ
  /-- Announces that the flow of a watch ended in a state. -/
  announce : Watch → FlowState → σ → Except String Unit × σ

/-- What a pass did. -/
structure Summary where
  succeeded : Nat
  failed : Nat
  watches : Nat
  left : Nat
  deriving DecidableEq, Repr

namespace Worker

variable {σ : Type} (h : Handlers σ)

/-! ## Tasks -/

/-- Tries a task up to `more` times, until it succeeds. -/
def attempt : Nat → TaskRecord → σ → TaskRecord × σ
  | 0, t, s => (t, s)
  | more + 1, t, s =>
    match h.perform t.task.action t.task.params s with
    | (.ok (), s) => ({ t with state := .success, attempts := t.attempts + 1, reason := none }, s)
    | (.error e, s) =>
      attempt more { t with state := .failed, attempts := t.attempts + 1, reason := some e } s

/-- Whether a task waits for one that did not succeed; `ended` holds the tasks before it. -/
def isBlocked (ended : List (String × TaskState)) (t : Task) : Bool :=
  match t.dependsOn with
  | none => false
  | some d => ended.lookup d != some .success

/-- Runs a task after those that ended. -/
def runTask (ended : List (String × TaskState)) (t : TaskRecord) (s : σ) : TaskRecord × σ :=
  if isBlocked ended t.task then
    ({ t with state := .canceled, reason := some "dependencia no completada" }, s)
  else attempt h (t.task.retry.maxAttempts - t.attempts) t s

/-- Runs tasks in order. -/
def runTasks : List (String × TaskState) → List TaskRecord → σ → List TaskRecord × σ
  | _, [], s => ([], s)
  | ended, t :: ts, s =>
    let (t, s) := runTask h ended t s
    let (ts, s) := runTasks ((t.task.id, t.state) :: ended) ts s
    (t :: ts, s)

/-- The state in which a flow ends with its tasks. -/
def outcome (tasks : List TaskRecord) : FlowState :=
  if tasks.all fun t => t.state == .success then .success else .failed

/-! ## Flows -/

/-- A watch after its announcement. -/
def finishWatch (answer : Except String Unit) (f : Flow) : Flow :=
  let (taskState, state, reason) : TaskState × FlowState × Option String :=
    match answer with
    | .ok () => (.success, .success, none)
    | .error e => (.failed, .failed, some e)
  { f with
    state := state
    reason := reason
    tasks := f.tasks.map fun t =>
      { t with state := taskState, attempts := t.attempts + 1, reason := reason } }

/-- What became of a flow that was taken from the queue. -/
inductive Fate where
  /-- It was over already. -/
  | dropped
  /-- It is a watch that has to wait. -/
  | requeued
  /-- It is a watch whose flow is over. -/
  | watchFinished
  /-- It ran and ended in a state. -/
  | ran (state : FlowState)
  deriving DecidableEq, Repr

/-- Works on a flow that was taken from the queue. -/
def runItem (id : Uuid) (e : Engine) (s : σ) : Except FlowError Fate × Engine × σ :=
  match e.get id with
  | .error error => (.error error, e, s)
  | .ok f =>
    if f.state.isTerminal then (.ok .dropped, e, s)
    else
      match f.watch with
      | some w =>
        match e.get w.flow with
        | .error error => (.error error, e, s)
        | .ok watched =>
          if watched.state.isTerminal then
            let (answer, s) := h.announce w watched.state s
            (.ok .watchFinished, e.modify id (finishWatch answer), s)
          else (.ok .requeued, e, s)
      | none =>
        let (tasks, s) := runTasks h [] f.tasks s
        let state := outcome tasks
        (.ok (.ran state), e.modify id fun f => { f with tasks := tasks, state := state }, s)

/-- A summary with one more flow counted. -/
def Fate.count (fate : Fate) (sum : Summary) : Summary :=
  match fate with
  | .dropped => sum
  | .requeued => sum
  | .watchFinished => { sum with watches := sum.watches + 1 }
  | .ran .success => { sum with succeeded := sum.succeeded + 1 }
  | .ran _ => { sum with failed := sum.failed + 1 }

/-! ## Passes -/

/-- The state of a pass. -/
structure Pass (σ : Type) where
  engine : Engine
  summary : Summary
  state : σ

/-- Works on flows that were taken from the queue; those that have to wait are `kept` for the next
round. -/
def runRound : List Uuid → List Uuid → Pass σ → Except FlowError (List Uuid) × Pass σ
  | [], kept, p => (.ok kept, p)
  | id :: rest, kept, p =>
    match runItem h id p.engine p.state with
    | (.error error, engine, state) =>
      (.error error, { p with engine := { engine with queue := ⟨rest ++ kept⟩ }, state := state })
    | (.ok fate, engine, state) =>
      runRound rest (if fate = .requeued then kept ++ [id] else kept)
        { engine := engine, summary := fate.count p.summary, state := state }

/-- Runs rounds until the queue is empty or a round leaves it as long as it was. -/
def runRounds (queue : List Uuid) (p : Pass σ) : Except FlowError Unit × Pass σ :=
  match runRound h queue [] p with
  | (.error error, p) => (.error error, p)
  | (.ok kept, p) =>
    if kept.length < queue.length then runRounds kept p
    else (.ok (), { p with engine := { p.engine with queue := ⟨kept⟩ } })
termination_by queue.length

/-- A pass of the worker over an engine. -/
def runUntilIdle (e : Engine) (s : σ) : Except FlowError Summary × Engine × σ :=
  let start : Pass σ :=
    { engine := e, summary := { succeeded := 0, failed := 0, watches := 0, left := 0 }, state := s }
  match runRounds h e.queue.waiting start with
  | (.error error, p) => (.error error, p.engine, p.state)
  | (.ok (), p) => (.ok { p.summary with left := p.engine.queue.size }, p.engine, p.state)

/-- Accepts every action and does nothing. -/
def acceptAll : String → Json → σ → Except String Unit × σ := fun _ _ s => (.ok (), s)

end Worker

end BalancerImport
