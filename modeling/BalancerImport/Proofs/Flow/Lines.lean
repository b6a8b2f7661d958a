import BalancerImport.Proofs.Flow.Chain
import Mathlib.Data.List.Chain
import Mathlib.Data.List.Induction

/-!
# Chains as lines of tasks

Tasks that form chains are split into lines, on each of which every task waits for the one before it.

* `IsLine`: tasks in a line; `Lines`: lines into which tasks are split;
* `Lines.start`, `Lines.extend`: one more task begins a line or goes on with one;
  `Linked.exists_lines`: linked tasks are split into lines;
* `IsLine.dependsOn_sublist`, `Lines.linked`: tasks that are split into lines are linked;
  `IsLine.linked_of_nodup`: so are those of a single line; `isLine_of_links`;
* **`checkChain_iff_lines`**: which tasks the engine accepts, said both ways.
-/

namespace BalancerImport

variable {t u : Task} {tasks line : List Task} {lines : List (List Task)}

/-! ## Lines -/

/-- Tasks in a line: the first waits for none, and each other one for the one before it. -/
structure IsLine (line : List Task) : Prop where
  first : ∀ t ∈ line.head?, t.dependsOn = none
  linked : line.IsChain fun t u => u.dependsOn = some t.id

/-- A line of some of the tasks, in their order. -/
structure LineOf (tasks line : List Task) : Prop extends IsLine line where
  ne_nil : line ≠ []
  sublist : line.Sublist tasks

/-- Lines into which tasks are split, so that each task is on one of them. -/
structure Lines (tasks : List Task) (lines : List (List Task)) : Prop where
  perm : lines.flatten.Perm tasks
  each : ∀ line ∈ lines, LineOf tasks line

theorem LineOf.mono (h : LineOf tasks line) : LineOf (tasks ++ [t]) line :=
  { h with sublist := h.sublist.trans (List.sublist_append_left _ _) }

theorem lineOf_singleton (ht : t.dependsOn = none) : LineOf (tasks ++ [t]) [t] where
  first := by simpa using ht
  linked := List.isChain_singleton t
  ne_nil := List.cons_ne_nil t []
  sublist := List.sublist_append_right tasks [t]

theorem LineOf.concat (h : LineOf tasks (line ++ [u])) (ht : t.dependsOn = some u.id) :
    LineOf (tasks ++ [t]) (line ++ [u] ++ [t]) where
  first := by
    rw [List.head?_append_of_ne_nil _ h.ne_nil]
    exact h.first
  linked := by
    rw [List.isChain_append]
    exact ⟨h.linked, List.isChain_singleton t, by simpa using ht⟩
  ne_nil := List.concat_ne_nil t _
  sublist := h.sublist.append_right [t]

/-- A task that waits for none begins a line. -/
theorem Lines.start (h : Lines tasks lines) (ht : t.dependsOn = none) :
    Lines (tasks ++ [t]) (lines ++ [[t]]) where
  perm := by
    rw [List.flatten_append, List.flatten_singleton]
    exact h.perm.append_right [t]
  each := by
    rw [List.forall_mem_append, List.forall_mem_singleton]
    exact ⟨fun line hline => (h.each line hline).mono, lineOf_singleton ht⟩

/-- A task that waits for the last one of a line goes on with it. -/
theorem Lines.extend {before after : List (List Task)}
    (h : Lines tasks (before ++ (line ++ [u]) :: after)) (ht : t.dependsOn = some u.id) :
    Lines (tasks ++ [t]) (before ++ (line ++ [u] ++ [t]) :: after) where
  perm := by
    have hswap : ([t] ++ after.flatten).Perm (after.flatten ++ [t]) := List.perm_append_comm
    refine .trans ?_ (h.perm.append_right [t])
    simp only [List.flatten_append, List.flatten_cons, List.append_assoc]
    exact ((hswap.append_left [u]).append_left line).append_left before.flatten
  each := by
    have heach := h.each
    rw [List.forall_mem_append, List.forall_mem_cons] at heach ⊢
    obtain ⟨hbefore, hline, hafter⟩ := heach
    exact ⟨fun other hm => (hbefore other hm).mono, hline.concat ht,
      fun other hm => (hafter other hm).mono⟩

theorem Linked.of_concat (h : Linked (tasks ++ [t])) : Linked tasks := by
  refine ⟨?_, ?_, ?_⟩
  · have hids := h.ids
    rw [List.map_append] at hids
    exact (List.nodup_append.mp hids).1
  · rintro before u after rfl d hd
    exact h.earlier before u (after ++ [t]) (by simp) d hd
  · have hsuccessors := h.successors
    rw [List.filterMap_append] at hsuccessors
    exact (List.nodup_append.mp hsuccessors).1

/-- Linked tasks are split into lines. -/
theorem Linked.exists_lines (h : Linked tasks) : ∃ lines, Lines tasks lines := by
  induction tasks using List.reverseRecOn with
  | nil => exact ⟨[], .nil, nofun⟩
  | append_singleton tasks t ih =>
    obtain ⟨lines, hlines⟩ := ih h.of_concat
    cases ht : t.dependsOn with
    | none => exact ⟨_, hlines.start ht⟩
    | some d =>
      obtain ⟨u, hu, rfl⟩ := List.mem_map.mp (h.earlier tasks t [] rfl d ht)
      obtain ⟨line, hline, hul⟩ := List.mem_flatten.mp (hlines.perm.mem_iff.mpr hu)
      obtain ⟨before, after, rfl⟩ := List.append_of_mem hline
      obtain ⟨xs, ys, rfl⟩ := List.append_of_mem hul
      cases ys with
      | nil => exact ⟨_, hlines.extend ht⟩
      | cons v ys =>
        -- the task after `u` on its line waits for `u` as well
        have hlinked := (List.isChain_append.mp (hlines.each _ hline).linked).2.1
        have hv : v.dependsOn = some u.id := (List.isChain_cons_cons.mp hlinked).1
        have hvm : v ∈ tasks := (hlines.each _ hline).sublist.subset (by simp)
        have hsuccessors := h.successors
        rw [List.filterMap_append, List.nodup_append] at hsuccessors
        refine absurd rfl (hsuccessors.2.2 u.id (List.mem_filterMap.mpr ⟨v, hvm, hv⟩) u.id ?_)
        simp [ht]

/-- What the tasks of a line wait for are others of them, each once. -/
theorem IsLine.dependsOn_sublist (h : IsLine line) :
    (line.filterMap Task.dependsOn).Sublist (line.map Task.id) := by
  have hrest : ∀ {t : Task} {rest : List Task},
      (t :: rest).IsChain (fun t u => u.dependsOn = some t.id) →
      (rest.filterMap Task.dependsOn).Sublist ((t :: rest).map Task.id) := by
    intro t rest
    induction rest generalizing t with
    | nil => simp
    | cons u rest ih =>
      intro hchain
      rw [List.isChain_cons_cons] at hchain
      rw [List.filterMap_cons_some hchain.1, List.map_cons]
      exact (ih hchain.2).cons_cons t.id
  cases line with
  | nil => exact .slnil
  | cons t rest =>
    rw [List.filterMap_cons_none (h.first t rfl)]
    exact hrest h.linked

/-- Distinct tasks that are split into lines are linked. -/
theorem Lines.linked (h : Lines tasks lines) (hids : (tasks.map Task.id).Nodup) : Linked tasks := by
  refine ⟨hids, ?_, ?_⟩
  · rintro before t after rfl d hd
    have hmem : t ∈ lines.flatten := h.perm.mem_iff.mpr (by simp)
    obtain ⟨line, hline, ht⟩ := List.mem_flatten.mp hmem
    obtain ⟨xs, ys, rfl⟩ := List.append_of_mem ht
    rcases List.eq_nil_or_concat xs with rfl | ⟨xs, u, rfl⟩
    · have hfirst := (h.each _ hline).first t rfl
      exact nomatch hd.symm.trans hfirst
    · have hu : t.dependsOn = some u.id := by
        have hlinked := (h.each _ hline).linked
        simpa using (List.isChain_append.mp hlinked).2.2 u (by simp) t (by simp)
      obtain rfl := Option.some.inj (hd.symm.trans hu)
      have hpair : [u, t].Sublist (before ++ t :: after) := by
        refine .trans ?_ (h.each _ hline).sublist
        simp
      rw [List.map_append, List.map_cons, List.nodup_middle, List.nodup_cons, List.mem_append,
        not_or] at hids
      obtain ⟨us, vs, he, hus, hvs⟩ := List.sublist_append_iff.mp hpair
      cases us with
      | cons v us =>
        obtain ⟨rfl, -⟩ := List.cons.inj he
        exact List.mem_map_of_mem (hus.subset List.mem_cons_self)
      | nil =>
        obtain rfl := he
        exact absurd (List.mem_map_of_mem (hvs.tail.subset List.mem_cons_self)) hids.1.2
  · have hdepends : (lines.flatten.filterMap Task.dependsOn).Sublist (lines.flatten.map Task.id) := by
      have heach := h.each
      clear h
      induction lines with
      | nil => exact .slnil
      | cons line lines ih =>
        obtain ⟨hline, hrest⟩ := List.forall_mem_cons.mp heach
        rw [List.flatten_cons, List.filterMap_append, List.map_append]
        exact hline.dependsOn_sublist.append (ih hrest)
    have hnodup := (h.perm.map Task.id).nodup_iff.mpr hids
    exact (h.perm.filterMap Task.dependsOn).nodup_iff.mp (hnodup.sublist hdepends)

/-- Distinct tasks in a line are linked. -/
theorem IsLine.linked_of_nodup (h : IsLine tasks) (hids : (tasks.map Task.id).Nodup) :
    Linked tasks := by
  cases tasks with
  | nil => exact ⟨.nil, by simp, .nil⟩
  | cons t rest =>
    have hlines : Lines (t :: rest) [t :: rest] := by
      refine ⟨by simp, List.forall_mem_singleton.mpr ?_⟩
      exact { h with ne_nil := List.cons_ne_nil t rest, sublist := .refl _ }
    exact hlines.linked hids

/-- Tasks whose actions are named one after the other, each with what it waits for, are in a line. -/
theorem isLine_of_links {f : Nat → String} (h : ∀ i t, tasks[i]? = some t →
    t.id = f i ∧ t.dependsOn = if i = 0 then none else some (f (i - 1))) : IsLine tasks := by
  refine ⟨fun t ht => ?_, ?_⟩
  · rw [Option.mem_def, List.head?_eq_getElem?] at ht
    exact (h 0 t ht).2
  · rw [List.isChain_iff_getElem]
    intro i hi
    rw [(h (i + 1) _ (List.getElem?_eq_getElem hi)).2,
      (h i _ (List.getElem?_eq_getElem (Nat.lt_of_succ_lt hi))).1]
    rfl

/-! ## Accepted tasks -/

/-- **The engine accepts tasks if and only if** there are some, each allows an attempt and has a
waiting time, and they are linked; or, what is the same, if distinct such tasks are split into one or
more lines. -/
theorem checkChain_iff_lines (tasks : List Task) :
    let retried := ∀ t ∈ tasks, 1 ≤ t.retry.maxAttempts ∧ t.retry.minBackoff ≤ t.retry.maxBackoff
    (checkChain tasks = .ok () ↔ tasks ≠ [] ∧ retried ∧ Linked tasks) ∧
      (checkChain tasks = .ok () ↔
        retried ∧ (tasks.map Task.id).Nodup ∧ ∃ lines, lines ≠ [] ∧ Lines tasks lines) := by
  intro retried
  have haccepted : checkChain tasks = .ok () ↔ tasks ≠ [] ∧ retried ∧ Linked tasks := by
    have hretried : (∀ t ∈ tasks, t.retry.isValid = true) ↔ retried :=
      forall₂_congr fun t _ => RetryPolicy.isValid_iff
    rw [checkChain_eq_ok, hretried]
  refine ⟨haccepted, haccepted.trans ⟨?_, ?_⟩⟩
  · rintro ⟨hne, hretried, hlinked⟩
    obtain ⟨lines, hlines⟩ := hlinked.exists_lines
    refine ⟨hretried, hlinked.ids, lines, ?_, hlines⟩
    rintro rfl
    exact hne hlines.perm.nil_eq.symm
  · rintro ⟨hretried, hids, lines, hne, hlines⟩
    refine ⟨?_, hretried, hlines.linked hids⟩
    rintro rfl
    obtain ⟨line, rest, rfl⟩ := List.exists_cons_of_ne_nil hne
    have hline := hlines.each line List.mem_cons_self
    exact hline.ne_nil (List.sublist_nil.mp hline.sublist)

/-- Two lines may take turns. -/
example :
    let task (id : String) (dependsOn : Option String) : Task :=
      { id, action := "", params := .null, retry := .standard, dependsOn }
    checkChain [task "1" none, task "2" none, task "3" (some "1"), task "4" (some "2")] = .ok () ∧
      checkChain [task "1" none, task "2" (some "1"), task "3" (some "1")] =
        .error (.secondSuccessor "1") := by decide

end BalancerImport
