import BalancerImport.Flow.Chain
import BalancerImport.Flow.Queue

/-!
# The flow engine

Flows are submitted dormant and queued when they are started; watches are queued at once. The engine
can be told to refuse submissions and starts after some more of them, and to refuse watches.

* `FlowError`: why the engine refuses a request, and its wording;
* `Engine`; `submit`, `submitWatch`, `start`, `cancel`, `get`: the requests.
-/

namespace BalancerImport

/-! ## Errors -/

/-- What an engine may be told to refuse. -/
inductive Refusal where
  | flow
  | watch
  | start
  deriving DecidableEq, Repr

/-- Why the engine refuses a request. -/
inductive FlowError where
  /-- A flow that does not exist. -/
  | unknownFlow (flow : Uuid)
  /-- A flow to be watched that does not exist. -/
  | unknownWatched (flow : Uuid)
  /-- A flow that cannot be started any more. -/
  | notDormant (flow : Uuid) (state : FlowState)
  /-- A flow that is over. -/
  | finished (flow : Uuid)
  /-- Tasks that do not form chains. -/
  | invalidTasks (fault : ChainFault)
  /-- A request that the engine was told to refuse. -/
  | refused (what : Refusal)
  deriving DecidableEq, Repr

/-- The four kinds of errors. -/
inductive FlowError.Category where
  | notFound
  | invalidState
  | invalidTasks
  | submission
  deriving DecidableEq, Repr

namespace FlowError

/-- The kind of an error. -/
def category : FlowError → Category
  | unknownFlow _ => .notFound
  | unknownWatched _ => .notFound
  | notDormant _ _ => .invalidState
  | finished _ => .invalidState
  | invalidTasks _ => .invalidTasks
  | refused _ => .submission

/-- The wording of a cause. -/
def detail : FlowError → String
  | unknownFlow flow => s!"flow {flow}"
  | unknownWatched flow => s!"flow vigilado {flow}"
  | notDormant flow state => s!"flow {flow} en estado {Named.name state}"
  | finished flow => s!"flow {flow} ya terminó"
  | invalidTasks fault => fault.message
  | refused .flow => "el motor rechazó el flow"
  | refused .watch => "el motor rechazó el flow de vigilancia"
  | refused .start => "el motor rechazó el arranque"

/-- The wording of an error. -/
def message (e : FlowError) : String :=
  match e.category with
  | .notFound => s!"No encontrado: {e.detail}"
  | .invalidState => s!"Estado inválido: {e.detail}"
  | .invalidTasks => s!"Tareas inválidas: {e.detail}"
  | .submission => s!"Envío rechazado: {e.detail}"

end FlowError

/-! ## The engine -/

/-- A flow engine. A budget counts the requests that are still accepted; without one all are. -/
structure Engine where
  /-- Every flow, in the order of creation. -/
  flows : List Flow
  queue : WorkQueue
  submitBudget : Option Nat
  startBudget : Option Nat
  refusesWatches : Bool
  /-- How many flows other than watches were ever created. -/
  flowsDrawn : Nat
  /-- How many watches were ever created. -/
  watchesDrawn : Nat
  /-- Where fresh identifiers start. -/
  seed : Nat
  deriving Repr

namespace Engine

/-- An engine without flows. -/
def empty (seed : Nat) : Engine :=
  { flows := [], queue := .empty, submitBudget := none, startBudget := none,
    refusesWatches := false, flowsDrawn := 0, watchesDrawn := 0, seed := seed }

/-- The name of watches and of their one action. -/
def watchName : String := "load_balancer_operate_watch"

/-- The flow with an id. -/
def find? (id : Uuid) (e : Engine) : Option Flow := e.flows.find? fun f => f.id == id

/-- The flow with an id, or the error that there is none. -/
def get (id : Uuid) (e : Engine) : Except FlowError Flow :=
  match e.find? id with
  | some f => .ok f
  | none => .error (.unknownFlow id)

/-- The engine with the flow of an id changed. -/
def modify (id : Uuid) (change : Flow → Flow) (e : Engine) : Engine :=
  { e with flows := e.flows.map fun f => if f.id = id then change f else f }

/-- A budget after one more request, unless it is used up. -/
def spend : Option Nat → Option (Option Nat)
  | none => some none
  | some 0 => none
  | some (n + 1) => some (some n)

/-- A dormant flow. -/
def dormantFlow (id : Uuid) (name : String) (tasks : List Task) (shared : List (String × String)) :
    Flow :=
  { id := id, name := name, state := .dormant, shared := shared, tasks := tasks.map Task.start,
    watch := none, reason := none }

/-- A watch that is queued. Its one task carries what it waits for. -/
def watchFlow (id : Uuid) (w : Watch) : Flow :=
  { id := id, name := watchName, state := .pending, shared := [],
    tasks := [Task.start { id := "1", action := watchName, params := w.encode,
                           retry := .standard, dependsOn := none }],
    watch := some w, reason := none }

/-- Submits a flow, which stays dormant. -/
def submit (name : String) (tasks : List Task) (shared : List (String × String)) (e : Engine) :
    Except FlowError Uuid × Engine :=
  match checkChain tasks with
  | .error fault => (.error (.invalidTasks fault), e)
  | .ok () =>
    match spend e.submitBudget with
    | none => (.error (.refused .flow), e)
    | some budget =>
      let id := Uuid.drawn e.seed .flow e.flowsDrawn
      (.ok id, { e with flows := e.flows ++ [dormantFlow id name tasks shared]
                        submitBudget := budget
                        flowsDrawn := e.flowsDrawn + 1 })

/-- Submits and queues a watch of an existing flow. -/
def submitWatch (w : Watch) (e : Engine) : Except FlowError Uuid × Engine :=
  if e.refusesWatches then (.error (.refused .watch), e)
  else if (e.find? w.flow).isNone then (.error (.unknownWatched w.flow), e)
  else
    let id := Uuid.drawn e.seed .watch e.watchesDrawn
    (.ok id, { e with flows := e.flows ++ [watchFlow id w]
                      queue := e.queue.enqueue id
                      watchesDrawn := e.watchesDrawn + 1 })

/-- Starts and queues a dormant flow. -/
def start (id : Uuid) (e : Engine) : Except FlowError Unit × Engine :=
  match spend e.startBudget with
  | none => (.error (.refused .start), e)
  | some budget =>
    let e := { e with startBudget := budget }
    match e.find? id with
    | none => (.error (.unknownFlow id), e)
    | some f =>
      if f.state = .dormant then
        let e := e.modify id fun f => { f with state := .pending }
        (.ok (), { e with queue := e.queue.enqueue id })
      else (.error (.notDormant id f.state), e)

/-- A task that is not tried any more, if it was still to be tried. -/
def cancelTask (t : TaskRecord) : TaskRecord :=
  if t.state = .pending then { t with state := .canceled } else t

/-- A canceled flow. -/
def cancelFlow (reason : String) (f : Flow) : Flow :=
  { f with state := .canceled, reason := some reason, tasks := f.tasks.map cancelTask }

/-- Cancels a flow that is not over. -/
def cancel (id : Uuid) (reason : String) (e : Engine) : Except FlowError Unit × Engine :=
  match e.find? id with
  | none => (.error (.unknownFlow id), e)
  | some f =>
    if f.state.isTerminal then (.error (.finished id), e)
    else (.ok (), e.modify id (cancelFlow reason))

end Engine

end BalancerImport
