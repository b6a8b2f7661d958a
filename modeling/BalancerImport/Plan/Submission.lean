import BalancerImport.Plan.Basic
import BalancerImport.Lock.Coordinator

/-!
# Submitting plans

The plans of an import are submitted in two phases. In the first each plan gets its dormant flow,
its watch and its lock; if one cannot have them all, everything is taken back. Only then are the
flows started. If the first flow does not start, everything is taken back as well; once it has
started, a later flow that does not start is canceled by itself.

* `Dispatch`: the engine and the locks;
* `Dispatch.prepare`: the first phase for one plan; `Dispatch.abandon`: taking flows back;
* `Dispatch.submitAll`: both phases for all plans.
-/

namespace BalancerImport

/-- What flows are submitted to: the engine, and the locks on what they work on. -/
structure Dispatch (K : Type) where
  engine : Engine
  locks : K

/-- A flow that was submitted, with its watch and its lock. -/
structure Submitted where
  flow : Uuid
  watch : Uuid
  key : ResourceKey
  /-- The action that works on each item. -/
  itemActions : List (Uuid × String)
  deriving DecidableEq, Repr

/-- What waits for the flow of a plan. -/
def Plan.watch (p : Plan) (flow : Uuid) : Watch :=
  { flow := flow, resourceId := p.key.id, resourceKind := Named.name p.key.kind, subIds := p.subIds,
    subKind := p.subKind.map Named.name, purpose := Named.name p.purpose }

/-- What the tasks of a plan share. -/
def Plan.shared (p : Plan) : List (String × String) := [("lb_id", p.lbId)]

namespace Dispatch

variable {K : Type}

/-- Cancels a flow, if it can be canceled. -/
def cancel (flow : Uuid) (reason : String) (d : Dispatch K) : Dispatch K :=
  { d with engine := (d.engine.cancel flow reason).2 }

variable [LockStore K]

/-- Gives a plan its dormant flow, its watch and its lock. A flow that cannot have the others is
canceled. -/
def prepare (now : Instant) (p : Plan) (d : Dispatch K) :
    Except ImportError Submitted × Dispatch K :=
  match d.engine.submit p.flowName p.tasks p.shared with
  | (.error e, engine) => (.error (.flow e), { d with engine := engine })
  | (.ok flow, engine) =>
    match engine.submitWatch (p.watch flow) with
    | (.error e, engine) =>
      (.error (.flow e), cancel flow "vigilancia no enviada" { d with engine := engine })
    | (.ok watch, engine) =>
      match Lock.acquire now p.key flow p.purpose d.locks with
      | (.error e, locks) => (.error e, cancel flow "recurso ocupado" { engine, locks })
      | (.ok (), locks) =>
        (.ok { flow, watch, key := p.key, itemActions := p.itemActions }, { engine, locks })

/-- Cancels flows and releases their locks. -/
def abandon (reason : String) : List Submitted → Dispatch K → Dispatch K
  | [], d => d
  | s :: rest, d =>
    let d := d.cancel s.flow reason
    abandon reason rest { d with locks := (Lock.release s.key s.flow d.locks).2 }

/-- The first phase for plans in order, up to the first that fails, after those that were `prepared`
already. -/
def prepareAll (now : Instant) :
    List Submitted → List Plan → Dispatch K → Except ImportError (List Submitted) × Dispatch K
  | prepared, [], d => (.ok prepared, d)
  | prepared, p :: rest, d =>
    match d.prepare now p with
    | (.error e, d) => (.error e, d.abandon "envío del job abortado" prepared)
    | (.ok s, d) => prepareAll now (prepared ++ [s]) rest d

/-- Starts flows of an import that stands. One that does not start is taken back. -/
def startRest : List Submitted → Dispatch K → Dispatch K
  | [], d => d
  | s :: rest, d =>
    match d.engine.start s.flow with
    | (.ok (), engine) => startRest rest { d with engine := engine }
    | (.error _, engine) =>
      startRest rest (abandon "arranque fallido" [s] { d with engine := engine })

/-- The second phase. If the first flow does not start, all are taken back. -/
def startAll : List Submitted → Dispatch K → Except ImportError Unit × Dispatch K
  | [], d => (.ok (), d)
  | s :: rest, d =>
    match d.engine.start s.flow with
    | (.ok (), engine) => (.ok (), startRest rest { d with engine := engine })
    | (.error e, engine) =>
      (.error (.flow e), abandon "arranque fallido" (s :: rest) { d with engine := engine })

/-- Submits plans, and starts their flows once all have their watch and their lock. -/
def submitAll (now : Instant) (plans : List Plan) (d : Dispatch K) :
    Except ImportError (List Submitted) × Dispatch K :=
  match d.prepareAll now [] plans with
  | (.error e, d) => (.error e, d)
  | (.ok submitted, d) =>
    match d.startAll submitted with
    | (.error e, d) => (.error e, d)
    | (.ok (), d) => (.ok submitted, d)

end Dispatch

end BalancerImport
