import BalancerImport.Proofs.Flow.Chain
import BalancerImport.Proofs.Flow.Tries
import BalancerImport.Proofs.Lists
import Mathlib.Data.List.Chain
import Mathlib.Data.List.Induction

/-!
# Tasks that wait for each other

How the tasks of a flow end that the engine accepted. The outcomes of earlier tasks are kept by their
action ids, so that a task finds the one that it waits for because no id comes twice.

* `TaskRun.WaitsFor`: a task that waits for another one;
* `Worker.isBlocked_iff`: a task is not tried if the one that it waits for did not succeed;
* `Worker.accepted_cases`: a task is canceled if it is blocked, and else tried;
* `TasksLine`: tasks each of which waits for the one before it;
* `TasksEnded`: how tasks ended, one by one and line by line;
* **`Worker.tasksEnded`**: so do all tasks that the engine accepts, however calls are answered.
-/

namespace BalancerImport

/-! ## Waiting -/

/-- A task that waits for another one. -/
def TaskRun.WaitsFor (r p : TaskRun) : Prop := r.record.task.dependsOn = some p.record.task.id

namespace Worker

variable {σ : Type} (h : Handlers σ) {tasks : List Task} {s : σ} {done rest runs : List TaskRun}
  {r p : TaskRun} {t : Task}

/-- A task is blocked by the one that it waits for, if that did not succeed. -/
theorem isBlocked_iff (hnodup : (done.map fun r => r.record.task.id).Nodup)
    (hwaits : ∀ d, r.record.task.dependsOn = some d → ∃ p ∈ done, p.record.task.id = d) :
    isBlocked (done.map TaskRun.outcome).reverse r.record.task = true ↔
      ∃ p ∈ done, r.WaitsFor p ∧ p.record.state ≠ .success := by
  unfold isBlocked TaskRun.WaitsFor
  cases hd : r.record.task.dependsOn with
  | none => simp
  | some d =>
    obtain ⟨p, hp, rfl⟩ := hwaits d hd
    have hlookup : (done.map TaskRun.outcome).reverse.lookup p.record.task.id =
        some p.record.state := by
      refine lookup_of_mem ?_ (List.mem_reverse.mpr (List.mem_map_of_mem hp))
      rw [List.map_reverse, List.nodup_reverse, List.map_map]
      exact hnodup
    simp only [hlookup, bne_iff_ne, ne_eq, Option.some.injEq]
    constructor
    · exact fun hst => ⟨p, hp, rfl, hst⟩
    · rintro ⟨p', hp', he, hst⟩
      rwa [List.inj_on_of_nodup_map hnodup hp hp' he]

/-- **One of the tasks that the engine accepted**, after those before it. -/
theorem accepted_cases (hchain : checkChain tasks = .ok ())
    (hsplit : taskRuns h [] (tasks.map Task.start) s = done ++ r :: rest) :
    (∀ d, r.record.task.dependsOn = some d → ∃ p ∈ done, p.record.task.id = d) ∧
      ((∃ p ∈ done, r.WaitsFor p ∧ p.record.state ≠ .success) ∧ r.Canceled ∨
        ¬ (∃ p ∈ done, r.WaitsFor p ∧ p.record.state ≠ .success) ∧ r.Tried) := by
  obtain ⟨before', t', after', own, htasks, hbefore, hr⟩ := taskRuns_split h hsplit
  obtain ⟨before, rest', rfl, rfl, hrest⟩ := List.map_eq_append_iff.mp htasks
  obtain ⟨t, after, rfl, rfl, -⟩ := List.map_eq_cons_iff.mp hrest
  have hdone : done.map (fun r => r.record.task) = before := by
    rw [hbefore, List.map_map]
    exact List.map_id before
  have hids : done.map (fun r => r.record.task.id) = before.map Task.id := by
    rw [← hdone, List.map_map]
    rfl
  have hnodup : (done.map fun r => r.record.task.id).Nodup := by
    have hall := nodup_of_checkChain hchain
    rw [List.map_append] at hall
    exact hids ▸ (List.nodup_append.mp hall).1
  obtain ⟨hleast, hwaits⟩ := waits_of_checkChain hchain
  rw [List.append_nil] at hr
  obtain ⟨htask, hcases⟩ := taskRun_cases h (done.map TaskRun.outcome).reverse own hleast
  rw [← hr] at htask hcases
  have hfound : ∀ d, r.record.task.dependsOn = some d → ∃ p ∈ done, p.record.task.id = d := by
    intro d hd
    have hm := hwaits d (htask ▸ hd)
    rw [← hids] at hm
    exact List.mem_map.mp hm
  have hblocked := isBlocked_iff hnodup hfound
  rw [htask] at hblocked
  refine ⟨hfound, ?_⟩
  rw [← hblocked, Bool.not_eq_true]
  exact hcases

end Worker

/-! ## Lines of tasks -/

/-- Some of the tasks that ended, the first of which waits for none, and each other one for the one
before it. -/
structure TasksLine (runs line : List TaskRun) : Prop where
  sublist : line.Sublist runs
  first : ∀ r ∈ line.head?, r.record.task.dependsOn = none
  linked : line.IsChain fun p r => r.WaitsFor p

/-- Tasks that succeeded until one failed, if any did, and others after it that were canceled. -/
def SucceededUntil (line : List TaskRun) : Prop :=
  ∃ succeeded rest, line = succeeded ++ rest ∧ (∀ r ∈ succeeded, r.record.state = .success) ∧
    (rest = [] ∨ ∃ failed canceled, rest = failed :: canceled ∧ failed.record.state = .failed ∧
      ∀ r ∈ canceled, r.record.state = .canceled)

/-- How tasks ended. -/
structure TasksEnded (tasks : List Task) (runs : List TaskRun) : Prop where
  /-- The tasks are the same, in the same order. -/
  tasks : runs.map (fun r => r.record.task) = tasks
  /-- A task is canceled if it waited for one that did not succeed, and only then. -/
  canceled : ∀ r ∈ runs, r.record.state = .canceled ↔
    ∃ p ∈ runs, r.WaitsFor p ∧ p.record.state ≠ .success
  untried : ∀ r ∈ runs, r.record.state = .canceled → r.Canceled
  tried : ∀ r ∈ runs, r.record.state ≠ .canceled → r.Tried
  /-- Along a line tasks succeed until one fails, and the others are canceled. -/
  lines : ∀ line, TasksLine runs line → SucceededUntil line
  /-- Each task is on a line. -/
  covered : ∀ r ∈ runs, ∃ before, TasksLine runs (before ++ [r])

namespace TasksLine

variable {runs line : List TaskRun} {r : TaskRun}

theorem mono {runs' : List TaskRun} (h : TasksLine runs line) (hsub : runs.Sublist runs') :
    TasksLine runs' line := { h with sublist := h.sublist.trans hsub }

/-- Every task is on a line, if what tasks wait for comes before them. -/
theorem exists_of_mem : ∀ {runs : List TaskRun},
    (∀ done r rest, runs = done ++ r :: rest → ∀ d, r.record.task.dependsOn = some d →
      ∃ p ∈ done, p.record.task.id = d) →
    ∀ r ∈ runs, ∃ before, TasksLine runs (before ++ [r]) := by
  intro runs
  -- by the last task, which ends the line of the one that it waits for
  induction runs using List.reverseRecOn with
  | nil => exact fun _ _ hr => absurd hr List.not_mem_nil
  | append_singleton runs last ih =>
    intro hwaits r hr
    have ih := ih fun done r rest hsplit =>
      hwaits done r (rest ++ [last]) (by rw [hsplit, List.append_assoc, List.cons_append])
    rcases List.mem_append.mp hr with hr | hr
    · obtain ⟨before, hline⟩ := ih r hr
      exact ⟨before, hline.mono (List.sublist_append_left _ _)⟩
    · obtain rfl := List.mem_singleton.mp hr
      cases hd : r.record.task.dependsOn with
      | none =>
        exact ⟨[], List.sublist_append_right _ _, by simpa using hd, List.isChain_singleton _⟩
      | some d =>
        obtain ⟨p, hp, rfl⟩ := hwaits runs r [] rfl d hd
        obtain ⟨before, hline⟩ := ih p hp
        refine ⟨before ++ [p], hline.sublist.append (List.Sublist.refl _), ?_, ?_⟩
        · simpa using hline.first
        · refine List.isChain_append.mpr ⟨hline.linked, List.isChain_singleton _, ?_⟩
          simpa [TaskRun.WaitsFor] using hd

end TasksLine

section

variable {runs : List TaskRun}
  (hcanceled : ∀ r ∈ runs, r.record.state = .canceled ↔
    ∃ p ∈ runs, r.WaitsFor p ∧ p.record.state ≠ .success)

include hcanceled

/-- After a task that did not succeed, the others of a line are canceled. -/
theorem canceled_of_linked : ∀ {p : TaskRun} {line : List TaskRun}, (∀ r ∈ p :: line, r ∈ runs) →
    (p :: line).IsChain (fun p r => r.WaitsFor p) → p.record.state ≠ .success →
    ∀ r ∈ line, r.record.state = .canceled
  | _, [], _, _, _ => nofun
  | p, q :: line, hmem, hlinked, hst => by
    obtain ⟨hwaits, hlinked⟩ := List.isChain_cons_cons.mp hlinked
    have hq : q.record.state = .canceled :=
      (hcanceled q (hmem q (by simp))).mpr ⟨p, hmem p List.mem_cons_self, hwaits, hst⟩
    have hrest := canceled_of_linked (fun r hr => hmem r (List.mem_cons_of_mem _ hr)) hlinked
      (by rw [hq]; nofun)
    intro r hr
    rcases List.mem_cons.mp hr with rfl | hr
    · exact hq
    · exact hrest r hr

/-- Along a line tasks succeed until one fails, if the first is not canceled. -/
theorem succeeded_of_linked (hnodup : (runs.map fun r => r.record.task.id).Nodup)
    (hover : ∀ r ∈ runs, r.record.state ≠ .canceled →
      r.record.state = .success ∨ r.record.state = .failed) : ∀ {line : List TaskRun},
    (∀ r ∈ line, r ∈ runs) → line.IsChain (fun p r => r.WaitsFor p) →
    (∀ r ∈ line.head?, r.record.state ≠ .canceled) → SucceededUntil line
  | [], _, _, _ => ⟨[], [], rfl, nofun, .inl rfl⟩
  | p :: line, hmem, hlinked, hfirst => by
    have hp : p ∈ runs := hmem p List.mem_cons_self
    rcases hover p hp (hfirst p rfl) with hst | hst
    · obtain ⟨hwaits, hlinked⟩ := List.isChain_cons.mp hlinked
      have hmem' : ∀ r ∈ line, r ∈ runs := fun r hr => hmem r (List.mem_cons_of_mem _ hr)
      have hnext : ∀ r ∈ line.head?, r.record.state ≠ .canceled := by
        intro r hr hc
        obtain ⟨p', hp', hwaits', hst'⟩ := (hcanceled r (hmem' r (List.mem_of_mem_head? hr))).mp hc
        have he := Option.some.inj ((hwaits r hr).symm.trans hwaits')
        exact hst' (List.inj_on_of_nodup_map hnodup hp hp' he ▸ hst)
      obtain ⟨succeeded, rest, rfl, hsucceeded, hrest⟩ :=
        succeeded_of_linked hnodup hover hmem' hlinked hnext
      refine ⟨p :: succeeded, rest, rfl, fun r hr => ?_, hrest⟩
      rcases List.mem_cons.mp hr with rfl | hr
      · exact hst
      · exact hsucceeded r hr
    · refine ⟨[], p :: line, rfl, nofun, .inr ⟨p, line, rfl, hst, ?_⟩⟩
      exact canceled_of_linked hcanceled hmem hlinked (by rw [hst]; nofun)

end

/-! ## Accepted tasks -/

namespace Worker

variable {σ : Type} (h : Handlers σ) {tasks : List Task} {s : σ} {r : TaskRun}

theorem tasks_taskRuns (tasks : List Task) (s : σ) :
    (taskRuns h [] (tasks.map Task.start) s).map (fun r => r.record.task) = tasks := by
  rw [map_task_taskRuns, List.map_map]
  exact List.map_id tasks

theorem nodup_taskRuns (hchain : checkChain tasks = .ok ()) :
    ((taskRuns h [] (tasks.map Task.start) s).map fun r => r.record.task.id).Nodup := by
  have hall := nodup_of_checkChain hchain
  rwa [← tasks_taskRuns h tasks s, List.map_map] at hall

/-- One of the tasks that the engine accepted, among all of them. -/
theorem accepted_of_mem (hchain : checkChain tasks = .ok ())
    (hr : r ∈ taskRuns h [] (tasks.map Task.start) s) :
    ((∃ p ∈ taskRuns h [] (tasks.map Task.start) s, r.WaitsFor p ∧ p.record.state ≠ .success) ∧
        r.Canceled) ∨
      (¬ (∃ p ∈ taskRuns h [] (tasks.map Task.start) s, r.WaitsFor p ∧ p.record.state ≠ .success) ∧
        r.Tried) := by
  obtain ⟨done, rest, hsplit⟩ := List.append_of_mem hr
  have hnodup := nodup_taskRuns h (s := s) hchain
  obtain ⟨hfound, hcases⟩ := accepted_cases h hchain hsplit
  have hearlier : ∀ p ∈ done, p ∈ taskRuns h [] (tasks.map Task.start) s :=
    fun p hp => hsplit ▸ List.mem_append_left _ hp
  rcases hcases with ⟨⟨p, hp, hblocked⟩, hc⟩ | ⟨hfree, ht⟩
  · exact .inl ⟨⟨p, hearlier p hp, hblocked⟩, hc⟩
  · refine .inr ⟨?_, ht⟩
    rintro ⟨p, hp, hwaits, hst⟩
    -- the one that it waits for is before it
    obtain ⟨p', hp', he⟩ := hfound _ hwaits
    obtain rfl := List.inj_on_of_nodup_map hnodup (hearlier p' hp') hp he
    exact hfree ⟨p', hp', hwaits, hst⟩

/-- **So do all tasks end that the engine accepts**, however calls are answered. -/
theorem tasksEnded (hchain : checkChain tasks = .ok ()) (s : σ) :
    TasksEnded tasks (taskRuns h [] (tasks.map Task.start) s) := by
  have hends := fun r => accepted_of_mem h (s := s) (r := r) hchain
  have hcanceled : ∀ r ∈ taskRuns h [] (tasks.map Task.start) s, r.record.state = .canceled ↔
      ∃ p ∈ taskRuns h [] (tasks.map Task.start) s, r.WaitsFor p ∧ p.record.state ≠ .success := by
    intro r hr
    rcases hends r hr with ⟨hblocked, hc⟩ | ⟨hfree, ht⟩
    · exact iff_of_true hc.state hblocked
    · refine iff_of_false (fun hc => ?_) hfree
      rcases ht.state with hst | hst <;> exact nomatch hst.symm.trans hc
  have htried : ∀ r ∈ taskRuns h [] (tasks.map Task.start) s, r.record.state ≠ .canceled →
      r.Tried := fun r hr hst =>
    (hends r hr).elim (fun hc => absurd hc.2.state hst) And.right
  constructor
  case tasks => exact tasks_taskRuns h tasks s
  case canceled => exact hcanceled
  case untried =>
    intro r hr hst
    rcases hends r hr with ⟨-, hc⟩ | ⟨hfree, -⟩
    · exact hc
    · exact absurd ((hcanceled r hr).mp hst) hfree
  case tried => exact htried
  case lines =>
    intro line hline
    refine succeeded_of_linked hcanceled (nodup_taskRuns h hchain)
      (fun r hr hst => (htried r hr hst).state) (fun r hr => hline.sublist.mem hr) hline.linked
      fun r hr hst => ?_
    have hmem := hline.sublist.mem (List.mem_of_mem_head? hr)
    obtain ⟨p, -, hwaits, -⟩ := (hcanceled r hmem).mp hst
    exact nomatch (hline.first r hr).symm.trans hwaits
  case covered =>
    exact TasksLine.exists_of_mem fun done r rest hsplit => (accepted_cases h hchain hsplit).1

end Worker

end BalancerImport
