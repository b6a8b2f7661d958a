import BalancerImport.Record.State
import Mathlib.Data.List.Induction
import Mathlib.Order.Bounds.Basic

/-!
# States join what is found out

Local rules, duplicates and live checks reach a record in an order of their own. Each of them calls
for a status, and the record gets the highest one that is called for: a finding that comes late, or
once more, counts like any other. Only a reset lowers a status. The reasons stay in the order in
which they are given.

* `Status.rank`: the order of the statuses;
* `RecordState.Finding`, `RecordState.Step`, `RecordState.after`: what is found out about a record,
  and runs in which everything may be forgotten in between;
* `RecordState.status_find`, `RecordState.messages_find`: one finding;
* `RecordState.Joins`: a state and what it was joined from; `RecordState.joins_findings`: runs
  without a reset;
* **`RecordState.after_joins`**: all runs.
-/

namespace BalancerImport

/-! ## The order of the statuses -/

namespace Status

/-- How much a status says against a record: one that is ruled out outranks all others. -/
def rank : Status → Nat
  | .unvalidated => 0
  | .executable => 1
  | .existing => 2
  | .notExecutable => 3

theorem rank_injective : Function.Injective rank := by
  intro s t
  cases s <;> cases t <;> simp [rank]

instance : LinearOrder Status := LinearOrder.lift' rank rank_injective

end Status

namespace RecordState

/-! ## Findings -/

/-- What may be found out about a record. -/
inductive Finding where
  | rejected (reason : String)
  | existing
  | finished
  deriving DecidableEq, Repr

/-- The status that a finding calls for. -/
def Finding.level : Finding → Status
  | .rejected _ => .notExecutable
  | .existing => .existing
  | .finished => .executable

/-- The reason that a finding gives. -/
def Finding.reason? : Finding → Option String
  | .rejected reason => some reason
  | .existing => none
  | .finished => none

/-- Notes a finding. -/
def find : Finding → RecordState → RecordState
  | .rejected reason => reject reason
  | .existing => markExisting
  | .finished => finish

variable {s t : RecordState} {findings : List Finding}

/-- **A finding joins its level to the status**, whatever was found out before. -/
theorem status_find (f : Finding) (s : RecordState) : (s.find f).status = max s.status f.level := by
  obtain ⟨status, messages⟩ := s
  -- the guards differ, but each leaves the status alone just where the level is not above it
  cases f <;> cases status <;> rfl

theorem messages_find (f : Finding) (s : RecordState) :
    (s.find f).messages = s.messages ++ f.reason?.toList := by
  cases f with
  | rejected reason => rfl
  | existing =>
    simp only [find, markExisting, Finding.reason?, Option.toList_none, List.append_nil]
    split <;> rfl
  | finished =>
    simp only [find, finish, Finding.reason?, Option.toList_none, List.append_nil]
    split <;> rfl

/-! ## Runs -/

/-- A step between states. -/
inductive Step where
  | reset
  | find (f : Finding)
  deriving DecidableEq, Repr

/-- Makes a step. -/
def Step.make : Step → RecordState → RecordState
  | .reset => RecordState.reset
  | .find f => RecordState.find f

/-- A state after some steps. -/
def after (steps : List Step) (s : RecordState) : RecordState :=
  steps.foldl (fun s step => step.make s) s

theorem after_append (steps more : List Step) (s : RecordState) :
    s.after (steps ++ more) = (s.after steps).after more := List.foldl_append

/-- What some findings lead to from a state: the highest status of that state and of the levels of
the findings, and the messages of that state with the reasons of the findings. -/
structure Joins (s : RecordState) (findings : List Finding) (t : RecordState) : Prop where
  status : IsGreatest (insert s.status {level | ∃ f ∈ findings, f.level = level}) t.status
  messages : t.messages = s.messages ++ findings.filterMap Finding.reason?

theorem joins_nil (s : RecordState) : Joins s [] s where
  status := by simp
  messages := by simp

theorem Joins.concat (h : Joins s findings t) (f : Finding) :
    Joins s (findings ++ [f]) (t.find f) where
  status := by
    have hlevels : {level | ∃ g ∈ findings ++ [f], g.level = level} =
        insert f.level {level | ∃ g ∈ findings, g.level = level} := by
      ext level
      simp [or_comm, eq_comm, or_and_right, exists_or]
    rw [status_find, max_comm, hlevels, Set.insert_comm]
    exact h.status.insert f.level
  messages := by
    rw [messages_find, h.messages, List.filterMap_append, List.append_assoc]
    cases hreason : f.reason? <;> simp [hreason]

/-- A run without a reset joins what is found in it to the state that it starts from. -/
theorem joins_findings (findings : List Finding) (s : RecordState) :
    Joins s findings (s.after (findings.map .find)) := by
  induction findings using List.reverseRecOn with
  | nil => exact joins_nil s
  | append_singleton findings f ih =>
    rw [List.map_append, after_append]
    exact ih.concat f

/-- **States join what is found out about a record**, in any order and any number of times: from the
state that a run starts from or, if there is a reset, from the one about which nothing is known. -/
theorem after_joins (s : RecordState) (findings : List Finding) :
    Joins s findings (s.after (findings.map .find)) ∧
      ∀ before : List Step,
        Joins initial findings (s.after (before ++ .reset :: findings.map .find)) := by
  refine ⟨joins_findings findings s, fun before => ?_⟩
  rw [after_append]
  exact joins_findings findings initial

-- What is found after the end of a validation still counts.
example : initial.after [.find .finished, .find .existing, .find .finished] = ⟨.existing, []⟩ := by
  decide

end RecordState

end BalancerImport
