import BalancerImport.Proofs.Flow.Visits

/-!
# Tries of tasks

How tasks end, told from the calls that were made for them. A task is tried until it succeeds or its
attempts are used up, unless it waits for one that did not succeed.

* `Try`, `Scribe.tries`: a call for a task with its answer, and what is written about it;
* `TaskRun`: a task as it ended, with its tries; `TaskRun.Tried`, `TaskRun.Canceled`: the two ways;
* `Worker.attempt_cases`: the calls for a task; **`Worker.taskRun_cases`**: a task ends in one way or
  the other;
* `Worker.taskRuns`: the tasks of a flow as they end; `runTasks_records`, `runTasks_tries`: what is
  kept of them, and what is called for them; `taskRuns_split`: one of them, after those before it.
-/

namespace BalancerImport

/-- A call that was made for a task, with its answer. -/
structure Try where
  action : String
  params : Json
  answer : Except String Unit

/-- The calls for tasks with their answers. -/
def Scribe.tries : Scribe Try where
  perform action params answer := [{ action := action, params := params, answer := answer }]
  announce _ _ _ := []

/-- A call for a task with an answer. -/
def Task.try (t : Task) (answer : Except String Unit) : Try :=
  { action := t.action, params := t.params, answer := answer }

/-- Calls for a task, all of which failed but possibly the last one. -/
def Task.tries (t : Task) (errors : List String) (last : Except String Unit) : List Try :=
  errors.map (fun e => t.try (.error e)) ++ [t.try last]

/-- A task as it ended, with the calls that were made for it. -/
structure TaskRun where
  record : TaskRecord
  tries : List Try

namespace TaskRun

variable {r : TaskRun} {errors : List String}

/-- The outcome of a task, by its action id. -/
def outcome (r : TaskRun) : String × TaskState := (r.record.task.id, r.record.state)

/-- The answer of the last call. -/
def lastAnswer? (r : TaskRun) : Option (Except String Unit) := r.tries.getLast?.map Try.answer

/-- A task that was tried: all calls but the last failed, and the last one decides. -/
structure Tried (r : TaskRun) : Prop where
  calls : ∀ c ∈ r.tries, c = r.record.task.try c.answer
  count : r.tries.length = r.record.attempts
  least : 1 ≤ r.record.attempts
  most : r.record.attempts ≤ r.record.task.retry.maxAttempts
  failing : ∀ c ∈ r.tries.dropLast, ∃ e, c.answer = .error e
  succeeded : (r.record.state = .success ∧ r.record.reason = none) ↔ r.lastAnswer? = some (.ok ())
  /-- If the last call failed as well, no attempt is left, and its reason is kept. -/
  failed : r.lastAnswer? ≠ some (.ok ()) → r.record.state = .failed ∧
    r.record.attempts = r.record.task.retry.maxAttempts ∧
    ∃ e, r.lastAnswer? = some (.error e) ∧ r.record.reason = some e

/-- A task that was not tried. -/
structure Canceled (r : TaskRun) : Prop where
  state : r.record.state = .canceled
  attempts : r.record.attempts = 0
  reason : r.record.reason = some "dependencia no completada"
  tries : r.tries = []

theorem Tried.state (h : r.Tried) : r.record.state = .success ∨ r.record.state = .failed := by
  by_cases hlast : r.lastAnswer? = some (.ok ())
  · exact .inl (h.succeeded.mpr hlast).1
  · exact .inr (h.failed hlast).1

/-- A task that was tried as long as the calls failed and an attempt was left. -/
theorem Tried.of_tries {last : Except String Unit}
    (htries : r.tries = r.record.task.tries errors last)
    (hcount : r.record.attempts = errors.length + 1)
    (hmost : errors.length + 1 ≤ r.record.task.retry.maxAttempts)
    (hend : (last = .ok () ∧ r.record.state = .success ∧ r.record.reason = none) ∨
      ∃ e, last = .error e ∧ r.record.state = .failed ∧ r.record.reason = some e ∧
        errors.length + 1 = r.record.task.retry.maxAttempts) : r.Tried := by
  have hlast : r.lastAnswer? = some last := by simp [lastAnswer?, htries, Task.tries, Task.try]
  constructor
  case calls =>
    intro c hc
    rw [htries, Task.tries, List.mem_append, List.mem_map, List.mem_singleton] at hc
    rcases hc with ⟨e, -, rfl⟩ | rfl <;> rfl
  case count => rw [htries, hcount, Task.tries, List.length_append, List.length_map]; rfl
  case least => rw [hcount]; exact Nat.succ_pos _
  case most => rwa [hcount]
  case failing => simp [htries, Task.tries, Task.try]
  case succeeded =>
    rw [hlast]
    rcases hend with ⟨rfl, hst, hreason⟩ | ⟨e, rfl, hst, -⟩ <;> simp [*]
  case failed =>
    rw [hlast]
    rcases hend with ⟨rfl, -⟩ | ⟨e, rfl, hst, hreason, hspent⟩
    · exact fun hne => absurd rfl hne
    · exact fun _ => ⟨hst, hcount.trans hspent, e, rfl, hreason⟩

end TaskRun

/-! ## One task -/

namespace Worker

variable {σ : Type} (h : Handlers σ)

/-- **The tries of a task**: some that fail, and one that succeeds, or one more that fails when no
attempt is left. -/
theorem attempt_cases : ∀ (more : Nat) (t : TaskRecord) (s : σ), ∃ errors : List String,
    (errors.length ≤ more ∧
      (attempt h (more + 1) t s).1 =
        { t with state := .success, attempts := t.attempts + errors.length + 1, reason := none } ∧
      (attempt (h.logging .tries) (more + 1) t (s, [])).2.2 = t.task.tries errors (.ok ())) ∨
    ∃ e, errors.length = more ∧
      (attempt h (more + 1) t s).1 =
        { t with state := .failed, attempts := t.attempts + errors.length + 1, reason := some e } ∧
      (attempt (h.logging .tries) (more + 1) t (s, [])).2.2 = t.task.tries errors (.error e) := by
  intro more
  induction more with
  | zero =>
    intro t s
    refine ⟨[], ?_⟩
    simp only [attempt, logging_perform]
    rcases h.perform t.task.action t.task.params s with ⟨e | ⟨⟩, own⟩
    · exact .inr ⟨e, rfl, rfl, rfl⟩
    · exact .inl ⟨Nat.le_refl 0, rfl, rfl⟩
  | succ more ih =>
    intro t s
    rw [attempt, attempt, logging_perform]
    rcases h.perform t.task.action t.task.params s with ⟨e | ⟨⟩, own⟩
    · -- the first call failed, and the others go on from it
      simp only [List.nil_append, attempt_logging h .tries (more + 1) _ own (Scribe.tries.perform ..)]
      have hattempts (n : Nat) : t.attempts + 1 + n + 1 = t.attempts + (n + 1) + 1 := by omega
      obtain ⟨errors, ⟨hle, hrecord, htries⟩ | ⟨e', hlength, hrecord, htries⟩⟩ := ih
        { t with state := .failed, attempts := t.attempts + 1, reason := some e } own
      · refine ⟨e :: errors, .inl ⟨Nat.succ_le_succ hle, ?_, ?_⟩⟩
        · rw [hrecord, hattempts, List.length_cons]
        · rw [htries]
          rfl
      · refine ⟨e :: errors, .inr ⟨e', congrArg (· + 1) hlength, ?_, ?_⟩⟩
        · rw [hrecord, hattempts, List.length_cons]
        · rw [htries]
          rfl
    · exact ⟨[], .inl ⟨Nat.zero_le _, rfl, rfl⟩⟩

/-- A task that is run after those that ended. -/
def taskRun (ended : List (String × TaskState)) (t : TaskRecord) (s : σ) : TaskRun :=
  { record := (runTask h ended t s).1, tries := (runTask (h.logging .tries) ended t (s, [])).2.2 }

/-- **A task that is started ends in one of two ways**, and which one depends on what it waits for. -/
theorem taskRun_cases (ended : List (String × TaskState)) {t : Task} (s : σ)
    (hleast : 1 ≤ t.retry.maxAttempts) : (taskRun h ended t.start s).record.task = t ∧
      ((isBlocked ended t = true ∧ (taskRun h ended t.start s).Canceled) ∨
        (isBlocked ended t = false ∧ (taskRun h ended t.start s).Tried)) := by
  unfold taskRun runTask
  cases hblocked : isBlocked ended t.start.task with
  | true => exact ⟨rfl, .inl ⟨hblocked, rfl, rfl, rfl, rfl⟩⟩
  | false =>
    obtain ⟨more, hmore⟩ := Nat.exists_eq_add_of_le' hleast
    have hattempts : t.start.task.retry.maxAttempts - t.start.attempts = more + 1 := hmore
    simp only [Bool.false_eq_true, if_false, hattempts]
    obtain ⟨errors, ⟨hle, hrecord, htries⟩ | ⟨e, hlength, hrecord, htries⟩⟩ :=
      attempt_cases h more t.start s
    all_goals
      rw [hrecord, htries]
      refine ⟨rfl, .inr ⟨hblocked, .of_tries rfl (congrArg (· + 1) (Nat.zero_add _)) ?_ ?_⟩⟩
    · exact hmore ▸ Nat.succ_le_succ hle
    · exact .inl ⟨rfl, rfl, rfl⟩
    · exact Nat.le_of_eq (hmore.trans (congrArg (· + 1) hlength.symm)).symm
    · exact .inr ⟨e, rfl, rfl, rfl, (hmore.trans (congrArg (· + 1) hlength.symm)).symm⟩

/-! ## The tasks of a flow -/

/-- The tasks of a flow as they end, one after the other. -/
def taskRuns : List (String × TaskState) → List TaskRecord → σ → List TaskRun
  | _, [], _ => []
  | ended, t :: ts, s =>
    taskRun h ended t s ::
      taskRuns ((taskRun h ended t s).outcome :: ended) ts (runTask h ended t s).2

theorem attempt_task : ∀ (more : Nat) (t : TaskRecord) (s : σ), (attempt h more t s).1.task = t.task
  | 0, _, _ => rfl
  | more + 1, t, s => by
    rw [attempt]
    rcases h.perform t.task.action t.task.params s with ⟨e | ⟨⟩, own⟩
    · exact attempt_task more _ own
    · rfl

theorem taskRun_task (ended : List (String × TaskState)) (t : TaskRecord) (s : σ) :
    (taskRun h ended t s).record.task = t.task := by
  unfold taskRun runTask
  split
  · rfl
  · exact attempt_task h _ t s

theorem map_task_taskRuns : ∀ (ended : List (String × TaskState)) (ts : List TaskRecord) (s : σ),
    (taskRuns h ended ts s).map (fun r => r.record.task) = ts.map TaskRecord.task
  | _, [], _ => rfl
  | ended, t :: ts, s => by
    rw [taskRuns, List.map_cons, List.map_cons, taskRun_task, map_task_taskRuns _ ts]

/-- One of the tasks, which ran after those before it. -/
theorem taskRuns_split {r : TaskRun} {rest : List TaskRun} : ∀ {done : List TaskRun}
    {ended : List (String × TaskState)} {ts : List TaskRecord} {s : σ},
    taskRuns h ended ts s = done ++ r :: rest → ∃ before t after own, ts = before ++ t :: after ∧
      done.map (fun r => r.record.task) = before.map TaskRecord.task ∧
      r = taskRun h ((done.map TaskRun.outcome).reverse ++ ended) t own
  | done, ended, [], s, hsplit => by simp [taskRuns] at hsplit
  | [], ended, t :: ts, s, hsplit => ⟨[], t, ts, s, rfl, rfl, (List.cons.inj hsplit).1.symm⟩
  | p :: done, ended, t :: ts, s, hsplit => by
    obtain ⟨rfl, hrest⟩ := List.cons.inj hsplit
    obtain ⟨before, u, after, own, rfl, hdone, rfl⟩ := taskRuns_split hrest
    refine ⟨t :: before, u, after, own, rfl, ?_, ?_⟩
    · rw [List.map_cons, List.map_cons, taskRun_task, hdone]
    · rw [List.map_cons, List.reverse_cons, List.append_assoc, List.singleton_append]

theorem runTasks_records : ∀ (ended : List (String × TaskState)) (ts : List TaskRecord) (s : σ),
    (runTasks h ended ts s).1 = (taskRuns h ended ts s).map TaskRun.record
  | _, [], _ => rfl
  | ended, t :: ts, s => by
    rw [runTasks, taskRuns, List.map_cons, ← runTasks_records _ ts]
    rfl

theorem runTasks_tries : ∀ (ended : List (String × TaskState)) (ts : List TaskRecord) (s : σ),
    (runTasks (h.logging .tries) ended ts (s, [])).2.2 =
      (taskRuns h ended ts s).flatMap TaskRun.tries
  | _, [], _ => rfl
  | ended, t :: ts, s => by
    rw [runTasks, taskRuns, List.flatMap_cons, ← runTasks_tries _ ts]
    simp only []
    rw [runTask_logging_nil, runTasks_logging]
    rfl

end Worker

end BalancerImport
