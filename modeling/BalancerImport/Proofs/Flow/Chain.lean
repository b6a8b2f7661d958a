import BalancerImport.Flow.Chain
import Mathlib.Data.List.Nodup

/-!
# Accepted chains

What tasks have in common that form chains. The check reads them once, and keeps the actions that it
has seen and those that are depended on; what it has still to find is said of the tasks to come.

* `Linked`: distinct tasks that wait for earlier ones, no two for the same; `LinkedAfter`: tasks that
  are so after others;
* `checkChainFrom_cons`, `linkedAfter_cons`: what the check asks of the next task;
  `checkChainFrom_iff`: what it decides of all that are to come;
* **`checkChain_eq_ok`**: tasks form chains if and only if there are some, each allows an attempt,
  and they are linked;
* `nodup_of_checkChain`, `waits_of_checkChain`: what follows for one of them.
-/

namespace BalancerImport

variable {seen depended : List String} {t : Task} {ts tasks before rest : List Task}

/-! ## Links -/

/-- Tasks with distinct actions, each of which waits for an earlier one at most, and no two for the
same. -/
structure Linked (tasks : List Task) : Prop where
  ids : (tasks.map Task.id).Nodup
  earlier : ∀ before t after, tasks = before ++ t :: after → ∀ d, t.dependsOn = some d →
    d ∈ before.map Task.id
  successors : (tasks.filterMap Task.dependsOn).Nodup

/-- Tasks that may come after the actions that were `seen`, some of which are depended on. -/
structure LinkedAfter (seen depended : List String) (tasks : List Task) : Prop where
  retries : ∀ t ∈ tasks, t.retry.isValid = true
  ids : (tasks.map Task.id).Nodup
  new : ∀ t ∈ tasks, t.id ∉ seen
  earlier : ∀ before t after, tasks = before ++ t :: after → ∀ d, t.dependsOn = some d →
    d ∈ seen ∨ d ∈ before.map Task.id
  successors : (tasks.filterMap Task.dependsOn).Nodup
  free : ∀ d ∈ tasks.filterMap Task.dependsOn, d ∉ depended

theorem filterMap_dependsOn_cons :
    (t :: ts).filterMap Task.dependsOn = t.dependsOn.toList ++ ts.filterMap Task.dependsOn := by
  cases h : t.dependsOn with
  | none => rw [List.filterMap_cons_none h, Option.toList_none, List.nil_append]
  | some d => rw [List.filterMap_cons_some h, Option.toList_some, List.singleton_append]

theorem linkedAfter_cons : LinkedAfter seen depended (t :: ts) ↔
    t.retry.isValid = true ∧ (∀ d, t.dependsOn = some d → d ∈ seen ∧ d ∉ depended) ∧
      t.id ∉ seen ∧ LinkedAfter (t.id :: seen) (t.dependsOn.toList ++ depended) ts := by
  have htoList : ∀ d, d ∈ t.dependsOn.toList ↔ t.dependsOn = some d := fun d => Option.mem_toList
  constructor
  · rintro ⟨hretries, hids, hnew, hearlier, hsuccessors, hfree⟩
    rw [filterMap_dependsOn_cons] at hsuccessors hfree
    rw [List.map_cons, List.nodup_cons] at hids
    rw [List.nodup_append] at hsuccessors
    obtain ⟨hvalid, hretries⟩ := List.forall_mem_cons.mp hretries
    obtain ⟨hfirst, hnew⟩ := List.forall_mem_cons.mp hnew
    refine ⟨hvalid, fun d hd => ⟨?_, hfree d (List.mem_append_left _ ((htoList d).mpr hd))⟩, hfirst,
      hretries, hids.2, fun u hu => ?_, ?_, hsuccessors.2.1, fun d hd hm => ?_⟩
    · exact (hearlier [] t ts rfl d hd).resolve_right List.not_mem_nil
    · rw [List.mem_cons, not_or]
      exact ⟨fun he => hids.1 (he ▸ List.mem_map_of_mem hu), hnew u hu⟩
    · rintro before u after rfl d hd
      have hseen := hearlier (t :: before) u after rfl d hd
      rw [List.map_cons, List.mem_cons] at hseen
      rw [List.mem_cons]
      tauto
    · rcases List.mem_append.mp hm with hm | hm
      · exact hsuccessors.2.2 d hm d hd rfl
      · exact hfree d (List.mem_append_right _ hd) hm
  · rintro ⟨hvalid, hwaits, hfirst, hretries, hids, hnew, hearlier, hsuccessors, hfree⟩
    constructor
    case retries => exact List.forall_mem_cons.mpr ⟨hvalid, hretries⟩
    case ids =>
      rw [List.map_cons, List.nodup_cons]
      refine ⟨fun hm => ?_, hids⟩
      obtain ⟨u, hu, he⟩ := List.mem_map.mp hm
      exact hnew u hu (he ▸ List.mem_cons_self)
    case new =>
      exact List.forall_mem_cons.mpr
        ⟨hfirst, fun u hu hm => hnew u hu (List.mem_cons_of_mem _ hm)⟩
    case earlier =>
      rintro (_ | ⟨v, before⟩) u after he d hd
      · obtain ⟨rfl, -⟩ := List.cons.inj he
        exact .inl (hwaits d hd).1
      · obtain ⟨rfl, rfl⟩ := List.cons.inj he
        have hseen := hearlier before u after rfl d hd
        rw [List.mem_cons] at hseen
        rw [List.map_cons, List.mem_cons]
        tauto
    case successors =>
      rw [filterMap_dependsOn_cons, List.nodup_append]
      refine ⟨by cases t.dependsOn <;> simp, hsuccessors, fun d hd d' hd' he => ?_⟩
      exact hfree d' hd' (List.mem_append_left _ (he ▸ hd))
    case free =>
      intro d hd
      rw [filterMap_dependsOn_cons] at hd
      rcases List.mem_append.mp hd with hd | hd
      · exact (hwaits d ((htoList d).mp hd)).2
      · exact fun hm => hfree d hd (List.mem_append_right _ hm)

theorem linkedAfter_nil : LinkedAfter [] [] tasks ↔
    (∀ t ∈ tasks, t.retry.isValid = true) ∧ Linked tasks := by
  constructor
  · rintro ⟨hretries, hids, -, hearlier, hsuccessors, -⟩
    refine ⟨hretries, hids, fun before t after he d hd => ?_, hsuccessors⟩
    exact (hearlier before t after he d hd).resolve_left List.not_mem_nil
  · rintro ⟨hretries, hids, hearlier, hsuccessors⟩
    exact ⟨hretries, hids, fun _ _ => List.not_mem_nil,
      fun before t after he d hd => .inr (hearlier before t after he d hd), hsuccessors,
      fun _ _ => List.not_mem_nil⟩

/-! ## The check -/

theorem dependencyFault?_eq_none : dependencyFault? seen depended t = none ↔
    ∀ d, t.dependsOn = some d → d ∈ seen ∧ d ∉ depended := by
  unfold dependencyFault?
  cases t.dependsOn with
  | none => simp
  | some d =>
    by_cases hseen : d ∈ seen <;> by_cases hdepended : d ∈ depended <;> simp [hseen, hdepended]

/-- What the check asks of the next task, and of those after it. -/
theorem checkChainFrom_cons : checkChainFrom seen depended (t :: ts) = .ok () ↔
    t.retry.isValid = true ∧ (∀ d, t.dependsOn = some d → d ∈ seen ∧ d ∉ depended) ∧
      t.id ∉ seen ∧ checkChainFrom (t.id :: seen) (t.dependsOn.toList ++ depended) ts = .ok () := by
  rw [← dependencyFault?_eq_none, checkChainFrom]
  cases t.retry.isValid with
  | false => simp
  | true =>
    cases dependencyFault? seen depended t with
    | some fault => simp
    | none => by_cases hseen : t.id ∈ seen <;> simp [hseen]

/-- What the check decides of the tasks to come. -/
theorem checkChainFrom_iff :
    checkChainFrom seen depended ts = .ok () ↔ LinkedAfter seen depended ts := by
  induction ts generalizing seen depended with
  | nil => exact iff_of_true rfl ⟨nofun, .nil, nofun, by simp, .nil, nofun⟩
  | cons t ts ih => rw [checkChainFrom_cons, linkedAfter_cons, ih]

/-- **Tasks form chains if and only if they are linked**, and each allows an attempt. -/
theorem checkChain_eq_ok : checkChain tasks = .ok () ↔
    tasks ≠ [] ∧ (∀ t ∈ tasks, t.retry.isValid = true) ∧ Linked tasks := by
  rw [← linkedAfter_nil, ← checkChainFrom_iff, checkChain]
  cases tasks <;> simp

theorem RetryPolicy.isValid_iff {p : RetryPolicy} :
    p.isValid = true ↔ 1 ≤ p.maxAttempts ∧ p.minBackoff ≤ p.maxBackoff := by
  rw [isValid, Bool.and_eq_true, decide_eq_true_eq, decide_eq_true_eq]

/-- **The action ids of accepted tasks are distinct.** -/
theorem nodup_of_checkChain (h : checkChain tasks = .ok ()) : (tasks.map Task.id).Nodup :=
  (checkChain_eq_ok.mp h).2.2.ids

/-- **An accepted task allows an attempt**, and waits for one before it if it waits at all. -/
theorem waits_of_checkChain (h : checkChain (before ++ t :: rest) = .ok ()) :
    1 ≤ t.retry.maxAttempts ∧ ∀ d, t.dependsOn = some d → d ∈ before.map Task.id := by
  obtain ⟨-, hretries, hlinked⟩ := checkChain_eq_ok.mp h
  exact ⟨(RetryPolicy.isValid_iff.mp (hretries t (by simp))).1,
    hlinked.earlier before t rest rfl⟩

end BalancerImport
