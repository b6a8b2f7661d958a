import BalancerImport.Plan.Basic
import BalancerImport.Proofs.Lists
import Mathlib.Data.List.Induction

/-!
# Groups and batches

What the groups of keyed items are, and that cutting items into batches loses none and keeps their
order.

* `groupByKey_eq`: one group for each key, in the order in which the keys first appear, with the
  items of that key in order; `keys_groupByKey`, `of_mem_groupByKey`: its keys, and each group;
* `groupByKey_perm`: together the groups hold the items;
* `mapUntilError_ok`: all results, where there is no error;
* `flatten_cut`; `TaskOf`: the task of a batch; `chainFrom_ok`, `chainBatches_cut`,
  `chainBatches_ok`: batches in order, each with its task.
-/

namespace BalancerImport

variable {α β ε : Type}

/-! ## Distinct keys -/

theorem nodup_eraseDups [DecidableEq α] (l : List α) : l.eraseDups.Nodup := by
  induction l using List.reverseRecOn with
  | nil => simp
  | append_singleton l a ih =>
    rw [eraseDups_concat]
    split
    · exact ih
    · rename_i h
      rw [List.nodup_append]
      refine ⟨ih, by simp, fun x hx y hy he => h ?_⟩
      rw [← List.mem_singleton.mp hy, ← he]
      exact List.mem_eraseDups.mp hx

/-- What is searched for is found in the same place if later copies are left out. -/
theorem findSome?_eraseDups [DecidableEq α] (f : α → Option β) (l : List α) :
    l.eraseDups.findSome? f = l.findSome? f := by
  induction l using List.reverseRecOn with
  | nil => rfl
  | append_singleton l a ih =>
    rw [eraseDups_concat, List.findSome?_append]
    split
    · rename_i h
      rw [ih]
      cases hl : l.findSome? f with
      | none => simp [List.findSome?_eq_none_iff.mp hl a h]
      | some b => rfl
    · rw [List.findSome?_append, ih]

/-! ## Groups -/

theorem addToGroup_of_not_mem {key : String} {a : α} : ∀ {groups : List (String × List α)},
    key ∉ groups.map Prod.fst → addToGroup key a groups = groups ++ [(key, [a])]
  | [], _ => rfl
  | (k, group) :: rest, h => by
    rw [List.map_cons, List.mem_cons, not_or] at h
    rw [addToGroup, if_neg (Ne.symm h.1), addToGroup_of_not_mem h.2, List.cons_append]

theorem addToGroup_of_mem {key : String} {a : α} : ∀ {groups : List (String × List α)},
    (groups.map Prod.fst).Nodup → key ∈ groups.map Prod.fst →
    addToGroup key a groups = groups.map fun g => if g.1 = key then (g.1, g.2 ++ [a]) else g
  | [], _, h => by simp at h
  | (k, group) :: rest, hnodup, h => by
    rw [List.map_cons, List.nodup_cons] at hnodup
    rw [addToGroup, List.map_cons]
    by_cases hk : k = key
    · subst hk
      rw [if_pos rfl, if_pos rfl]
      congr 1
      symm
      refine map_eq_self fun g hg => if_neg fun he => ?_
      exact hnodup.1 (List.mem_map.mpr ⟨g, hg, he⟩)
    · rw [if_neg hk, if_neg hk]
      rw [List.map_cons, List.mem_cons] at h
      rw [addToGroup_of_mem hnodup.2 (h.resolve_left fun he => hk he.symm)]

/-- The items of a key. -/
def itemsOfKey (key : String) (items : List (String × α)) : List α :=
  (items.filter fun item => item.1 = key).map Prod.snd

theorem itemsOfKey_concat (key : String) (items : List (String × α)) (item : String × α) :
    itemsOfKey key (items ++ [item]) =
      if item.1 = key then itemsOfKey key items ++ [item.2] else itemsOfKey key items := by
  by_cases h : item.1 = key
  · simp [itemsOfKey, h]
  · simp [itemsOfKey, h]

theorem groupByKey_concat (items : List (String × α)) (item : String × α) :
    groupByKey (items ++ [item]) = addToGroup item.1 item.2 (groupByKey items) := by
  rw [groupByKey, List.foldl_concat]
  rfl

/-- **Keyed items are grouped by key, the keys in the order of first appearance.** -/
theorem groupByKey_eq (items : List (String × α)) :
    groupByKey items =
      (items.map Prod.fst).eraseDups.map fun key => (key, itemsOfKey key items) := by
  induction items using List.reverseRecOn with
  | nil => rfl
  | append_singleton items item ih =>
    have hkeys : ((items.map Prod.fst).eraseDups.map fun key =>
        (key, itemsOfKey key items)).map Prod.fst = (items.map Prod.fst).eraseDups := by
      rw [List.map_map]
      exact List.map_id' _
    rw [groupByKey_concat, ih, List.map_append, List.map_singleton, eraseDups_concat]
    by_cases h : item.1 ∈ items.map Prod.fst
    · rw [if_pos h, addToGroup_of_mem (by rw [hkeys]; exact nodup_eraseDups _)
        (by rw [hkeys]; exact List.mem_eraseDups.mpr h), List.map_map]
      refine List.map_congr_left fun key _ => ?_
      rw [Function.comp_apply, itemsOfKey_concat]
      by_cases hk : key = item.1
      · simp [hk]
      · simp [hk, Ne.symm hk]
    · rw [if_neg h, addToGroup_of_not_mem (by rwa [hkeys, List.mem_eraseDups]),
        List.map_append, List.map_singleton]
      have hnone : itemsOfKey item.1 items = [] := by
        rw [itemsOfKey, List.map_eq_nil_iff, List.filter_eq_nil_iff]
        intro i hi he
        exact h (List.mem_map.mpr ⟨i, hi, by simpa using he⟩)
      congr 1
      · refine List.map_congr_left fun key hkey => ?_
        have hne : item.1 ≠ key := fun he => h (he ▸ List.mem_eraseDups.mp hkey)
        rw [itemsOfKey_concat, if_neg hne]
      · rw [itemsOfKey_concat, if_pos rfl, hnone]
        rfl

theorem keys_groupByKey (items : List (String × α)) :
    (groupByKey items).map Prod.fst = (items.map Prod.fst).eraseDups := by
  rw [groupByKey_eq, List.map_map]
  exact List.map_id' _

/-- A group is not empty, and its items are such that have its key. -/
theorem of_mem_groupByKey {items : List (String × α)} {group : String × List α}
    (h : group ∈ groupByKey items) : group.2 ≠ [] ∧ ∀ a ∈ group.2, (group.1, a) ∈ items := by
  rw [groupByKey_eq] at h
  obtain ⟨key, hkey, rfl⟩ := List.mem_map.mp h
  obtain ⟨item, hitem, rfl⟩ := List.mem_map.mp (List.mem_eraseDups.mp hkey)
  constructor
  · exact List.ne_nil_of_mem (List.mem_map_of_mem (List.mem_filter.mpr ⟨hitem, by simp⟩))
  · intro a ha
    obtain ⟨other, hother, rfl⟩ := List.mem_map.mp ha
    obtain ⟨hother, hsame⟩ := List.mem_filter.mp hother
    rwa [← of_decide_eq_true hsame]

/-- The groups hold the keyed items. -/
theorem groupByKey_perm (items : List (String × α)) :
    ((groupByKey items).flatMap Prod.snd).Perm (items.map Prod.snd) := by
  have hadd : ∀ (key : String) (a : α) (groups : List (String × List α)),
      ((addToGroup key a groups).flatMap Prod.snd).Perm (groups.flatMap Prod.snd ++ [a]) := by
    intro key a groups
    induction groups with
    | nil => exact .refl _
    | cons g rest ih =>
      obtain ⟨k, group⟩ := g
      unfold addToGroup
      split
      · simp only [List.flatMap_cons, List.append_assoc]
        exact List.perm_append_comm.append_left group
      · simp only [List.flatMap_cons, List.append_assoc]
        exact ih.append_left group
  induction items using List.reverseRecOn with
  | nil => exact .refl _
  | append_singleton items item ih =>
    rw [groupByKey_concat, List.map_append]
    exact (hadd _ _ _).trans (ih.append_right _)

/-! ## Results up to the first error -/

theorem mapUntilError_ok {f : α → Except ε β} : ∀ {as : List α} {bs : List β},
    mapUntilError f as = .ok bs → List.Forall₂ (fun a b => f a = .ok b) as bs
  | [], bs, h => by
    obtain rfl := Except.ok.inj h
    exact .nil
  | a :: as, bs, h => by
    unfold mapUntilError at h
    split at h
    · simp at h
    · rename_i b hb
      obtain ⟨rest, hrest, rfl⟩ := map_ok h
      exact .cons hb (mapUntilError_ok hrest)

/-! ## Batches -/

theorem flatten_cut (size : Nat) : ∀ items : List α, (cut size items).flatten = items
  | [] => by simp [cut]
  | x :: xs => by
    rw [cut, List.flatten_cons, flatten_cut, List.cons_append, List.take_append_drop]
termination_by items => items.length
decreasing_by simp only [List.length_drop, List.length_cons]; omega

variable {action : String} {retry : RetryPolicy} {params : List α → Except PlanError Json}

/-- The task of a batch, with the action and the policy that it was made with. -/
structure TaskOf (action : String) (retry : RetryPolicy) (params : List α → Except PlanError Json)
    (b : Task × List α) : Prop where
  params : params b.2 = .ok b.1.params
  action : b.1.action = action
  retry : b.1.retry = retry

theorem chainFrom_ok : ∀ {batches : List (List α)} {ids : ActionIds}
    {chain : List (Task × List α)}, (chainFrom action retry params ids batches).1 = .ok chain →
    chain.map Prod.snd = batches ∧ ∀ b ∈ chain, TaskOf action retry params b
  | [], ids, chain, h => by
    obtain rfl := Except.ok.inj h
    simp
  | batch :: batches, ids, chain, h => by
    simp only [chainFrom] at h
    split at h
    · simp at h
    · rename_i json hjson
      obtain ⟨rest, hrest, rfl⟩ := map_ok h
      obtain ⟨hbatches, htasks⟩ := chainFrom_ok hrest
      refine ⟨by rw [List.map_cons, hbatches], ?_⟩
      exact List.forall_mem_cons.mpr ⟨⟨hjson, rfl, rfl⟩, htasks⟩

theorem chainBatches_cut {limit : Nat} {items : List α} {ids : ActionIds}
    {chain : List (Task × List α)}
    (h : (chainBatches action limit retry params items ids).1 = .ok chain) :
    chain.map Prod.snd = cut (limit - 1) items ∧ ∀ b ∈ chain, TaskOf action retry params b := by
  unfold chainBatches at h
  split at h
  · simp at h
  · exact chainFrom_ok h

/-- **The batches of items hold the items in order, and each task has the parameters of its
batch.** -/
theorem chainBatches_ok {limit : Nat} {items : List α} {ids : ActionIds}
    {chain : List (Task × List α)}
    (h : (chainBatches action limit retry params items ids).1 = .ok chain) :
    chain.flatMap Prod.snd = items ∧ ∀ b ∈ chain, params b.2 = .ok b.1.params := by
  obtain ⟨hbatches, htasks⟩ := chainBatches_cut h
  refine ⟨?_, fun b hb => (htasks b hb).params⟩
  rw [List.flatMap_def, hbatches, flatten_cut]

end BalancerImport
