import BalancerImport.Ledger.Memory
import BalancerImport.Proofs.Lists
import BalancerImport.Proofs.Fresh

/-!
# Requests to the ledger in memory

What the requests that an import makes of a ledger in memory do to its jobs and items.

* `MemoryLedger.Fresh`: no entry has an identifier that the ledger is still to draw;
* `startItems_eq`, `startItems_ids`: new items are those asked for, with the next identifiers;
* `applyAll`, `applyUpdates_append`: updates of items that exist are all applied, before others;
  `applyUpdates_missing`: those before an update of a missing item are;
* `applyAll_of_mem`, `applyAll_of_not_mem`: what they do to one item;
* `Fresh.setFlows`, `Fresh.updateItems`, `Fresh.deleteJob`, `Fresh.deleteItems`: requests that keep
  identifiers fresh.
-/

namespace BalancerImport.MemoryLedger

variable {s : MemoryLedger}

/-- No entry has an identifier that is still to be drawn. -/
structure Fresh (s : MemoryLedger) : Prop where
  job : Uuid.DrawsFresh s.seed .job s.jobsDrawn (s.jobs.map Job.id)
  item : Uuid.DrawsFresh s.seed .item s.itemsDrawn (s.items.map Item.id)

/-! ## New items -/

theorem startItems_ids (seed : Nat) : ∀ (n : Nat) (new : List NewItem),
    (startItems seed n new).map Item.id = (List.range' n new.length).map (Uuid.drawn seed .item)
  | _, [] => rfl
  | n, _ :: new => by
    rw [startItems, List.map_cons, startItems_ids seed (n + 1) new, List.length_cons,
      List.range'_succ, List.map_cons]
    rfl

theorem length_startItems (seed n : Nat) (new : List NewItem) :
    (startItems seed n new).length = new.length := by
  rw [← List.length_map (f := Item.id), startItems_ids, List.length_map, List.length_range']

theorem startItems_eq (seed : Nat) : ∀ (n : Nat) (new : List NewItem),
    startItems seed n new = List.zipWith NewItem.start new ((startItems seed n new).map Item.id)
  | _, [] => rfl
  | n, item :: new => by
    rw [startItems, List.map_cons, List.zipWith_cons_cons, ← startItems_eq seed (n + 1) new]
    rfl

theorem nodup_startItems (seed n : Nat) (new : List NewItem) :
    ((startItems seed n new).map Item.id).Nodup := by
  have hrange : (List.range' n new.length).Nodup := List.nodup_range'
  rw [startItems_ids]
  exact hrange.map fun a b h => (Uuid.drawn_inj.mp h).2

/-- The next identifiers belong to no item. -/
theorem Fresh.not_mem_startItems (h : s.Fresh) {new : List NewItem} {i : Item} (hi : i ∈ s.items) :
    i.id ∉ (startItems s.seed s.itemsDrawn new).map Item.id := by
  rw [startItems_ids]
  intro hm
  obtain ⟨n, hn, he⟩ := List.mem_map.mp hm
  have hle : s.itemsDrawn ≤ n := (List.mem_range'_1.mp hn).1
  exact h.item n hle (List.mem_map.mpr ⟨i, hi, he.symm⟩)

/-- The next identifier belongs to no job. -/
theorem Fresh.next_job (h : s.Fresh) : ∀ j ∈ s.jobs, j.id ≠ Uuid.drawn s.seed .job s.jobsDrawn :=
  fun j hj he => h.job _ (Nat.le_refl _) (List.mem_map.mpr ⟨j, hj, he⟩)

/-! ## Updates -/

/-- An item after updates. -/
def applyAll (us : List ItemUpdate) (i : Item) : Item := us.foldl (fun i u => applyTo u i) i

@[simp] theorem applyTo_id (u : ItemUpdate) (i : Item) : (applyTo u i).id = i.id := by
  unfold applyTo
  split <;> rfl

theorem applyAll_id : ∀ (us : List ItemUpdate) (i : Item), (applyAll us i).id = i.id
  | [], _ => rfl
  | u :: us, i => (applyAll_id us (applyTo u i)).trans (applyTo_id u i)

theorem map_applyTo_id (u : ItemUpdate) (items : List Item) :
    (items.map (applyTo u)).map Item.id = items.map Item.id := by
  rw [List.map_map]
  exact List.map_congr_left fun i _ => applyTo_id u i

theorem map_applyAll_id (us : List ItemUpdate) (items : List Item) :
    (items.map (applyAll us)).map Item.id = items.map Item.id := by
  rw [List.map_map]
  exact List.map_congr_left fun i _ => applyAll_id us i

/-- What an update searches for is one of the identifiers. -/
theorem any_id_iff {items : List Item} {id : Uuid} :
    (items.any fun i => i.id == id) = true ↔ id ∈ items.map Item.id := by
  rw [List.any_eq_true, List.mem_map]
  exact exists_congr fun i => and_congr_right fun _ => beq_iff_eq

/-- Updates of items that exist are applied to all items, in order, before the others. -/
theorem applyUpdates_append (us : List ItemUpdate) : ∀ {done : List ItemUpdate} {items : List Item},
    (∀ u ∈ done, u.item ∈ items.map Item.id) →
    applyUpdates (done ++ us) items = applyUpdates us (items.map (applyAll done))
  | [], items, _ => congrArg (applyUpdates us) (List.map_id' items).symm
  | u :: done, items, h => by
    obtain ⟨hu, hdone⟩ := List.forall_mem_cons.mp h
    rw [List.cons_append, applyUpdates, if_pos (any_id_iff.mpr hu),
      applyUpdates_append us (map_applyTo_id u items ▸ hdone), List.map_map]
    rfl

theorem applyUpdates_ok {us : List ItemUpdate} {items : List Item}
    (h : ∀ u ∈ us, u.item ∈ items.map Item.id) :
    applyUpdates us items = (.ok (), items.map (applyAll us)) := by
  have happlied := applyUpdates_append [] h
  rwa [List.append_nil] at happlied

/-- Updates up to the first one of a missing item are applied. -/
theorem applyUpdates_missing {u : ItemUpdate} {done undone : List ItemUpdate} {items : List Item}
    (hdone : ∀ v ∈ done, v.item ∈ items.map Item.id) (hmissing : u.item ∉ items.map Item.id) :
    applyUpdates (done ++ u :: undone) items =
      (.error (.unknownItem u.item), items.map (applyAll done)) := by
  have hnone : u.item ∉ (items.map (applyAll done)).map Item.id := by
    rwa [map_applyAll_id]
  rw [applyUpdates_append _ hdone, applyUpdates, if_neg (mt any_id_iff.mp hnone)]

theorem applyAll_of_not_mem : ∀ {us : List ItemUpdate} {i : Item},
    i.id ∉ us.map ItemUpdate.item → applyAll us i = i
  | [], _, _ => rfl
  | u :: us, i, h => by
    rw [List.map_cons, List.mem_cons, not_or] at h
    have hu : applyTo u i = i := if_neg h.1
    rw [applyAll, List.foldl_cons, hu]
    exact applyAll_of_not_mem h.2

/-- An item that one update is about gets the flow and the actions of that update. -/
theorem applyAll_of_mem : ∀ {us : List ItemUpdate} {u : ItemUpdate} {i : Item},
    (us.map ItemUpdate.item).Nodup → u ∈ us → u.item = i.id →
    applyAll us i = { i with flow := some u.flow, actions := u.actions }
  | [], _, _, _, h, _ => by simp at h
  | v :: us, u, i, hnodup, h, hi => by
    rw [List.map_cons, List.nodup_cons] at hnodup
    rw [applyAll, List.foldl_cons]
    rcases List.mem_cons.mp h with rfl | h
    · have hu : applyTo u i = { i with flow := some u.flow, actions := u.actions } := if_pos hi.symm
      have hrest : (applyTo u i).id ∉ us.map ItemUpdate.item := by
        rw [applyTo_id, ← hi]
        exact hnodup.1
      rw [← hu]
      exact applyAll_of_not_mem hrest
    · have hv : applyTo v i = i := by
        refine if_neg fun he => hnodup.1 ?_
        rw [← he, ← hi]
        exact List.mem_map_of_mem h
      rw [hv]
      exact applyAll_of_mem hnodup.2 h hi

/-! ## Requests keep identifiers fresh -/

theorem fresh_empty (seed : Nat) : (empty seed).Fresh := ⟨.nil, .nil⟩

/-- Entries that are changed or taken away leave the next identifiers fresh. -/
theorem Fresh.of_subset {s' : MemoryLedger} (h : s.Fresh) (hseed : s'.seed = s.seed)
    (hjobsDrawn : s'.jobsDrawn = s.jobsDrawn) (hitemsDrawn : s'.itemsDrawn = s.itemsDrawn)
    (hjobs : s'.jobs.map Job.id ⊆ s.jobs.map Job.id)
    (hitems : s'.items.map Item.id ⊆ s.items.map Item.id) : s'.Fresh := by
  constructor
  · rw [hseed, hjobsDrawn]
    exact fun n hn hm => h.job n hn (hjobs hm)
  · rw [hseed, hitemsDrawn]
    exact fun n hn hm => h.item n hn (hitems hm)

theorem applyUpdates_ids : ∀ (us : List ItemUpdate) (items : List Item),
    (applyUpdates us items).2.map Item.id = items.map Item.id
  | [], _ => rfl
  | u :: us, items => by
    unfold applyUpdates
    split
    · rw [applyUpdates_ids us, map_applyTo_id]
    · rfl

theorem Fresh.setFlows (h : s.Fresh) (id : Uuid) (flows : List Uuid) :
    (s.setFlows id flows).2.Fresh := by
  have hids : (s.jobs.map fun j => if j.id = id then { j with flows := flows } else j).map Job.id =
      s.jobs.map Job.id := by
    rw [List.map_map]
    refine List.map_congr_left fun j _ => ?_
    rw [Function.comp_apply]
    split <;> rfl
  unfold MemoryLedger.setFlows
  split
  · exact h
  · split
    · exact h
    · exact h.of_subset rfl rfl rfl (fun _ hm => hids ▸ hm) (List.Subset.refl _)

theorem Fresh.updateItems (h : s.Fresh) (us : List ItemUpdate) : (s.updateItems us).2.Fresh := by
  unfold MemoryLedger.updateItems
  split
  · exact h
  · exact h.of_subset rfl rfl rfl (List.Subset.refl _) fun _ hm => applyUpdates_ids us s.items ▸ hm

theorem Fresh.deleteJob (h : s.Fresh) (id : Uuid) : (s.deleteJob id).2.Fresh := by
  unfold MemoryLedger.deleteJob
  split
  · exact h
  · exact h.of_subset rfl rfl rfl (List.filter_sublist.map _).subset
      (List.Subset.refl _)

theorem Fresh.deleteItems (h : s.Fresh) (ids : List Uuid) : (s.deleteItems ids).2.Fresh := by
  unfold MemoryLedger.deleteItems
  split
  · exact h
  · exact h.of_subset rfl rfl rfl (List.Subset.refl _)
      (List.filter_sublist.map _).subset

end BalancerImport.MemoryLedger
