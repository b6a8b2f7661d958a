import BalancerImport.Import.Writing
import BalancerImport.Proofs.Import.Extension

/-!
# Writing to the ledger in memory

What an import adds to the ledger in memory, and that it can be taken away again.

* `Written.Adds`: a ledger with the job and the items of an import added; `Adds.extends`;
* **`Written.write_ok`**, **`Written.write_error`**: writing adds a job and its items, or fails and
  leaves the entries as they were; **`Written.write_error_of_refused`**: or leaves a job with some
  of its items, where nothing can be deleted;
* **`Written.rollback_eq`**, `Written.rollback_error`: what was added is taken away, or all of it
  stays;
* `Written.attach_ok`: noting flows in what was added.
-/

namespace BalancerImport

variable {R : Type} [Importable R] {ctx : Context} {source : Source} {now : Instant} {rs : List R}

namespace Written

variable {w : Written} {s s' : MemoryLedger}

/-- A ledger is another one with the job and the items of an import added at the end. -/
structure Adds (ctx : Context) (source : Source) (rs : List R) (w : Written) (s s' : MemoryLedger) :
    Prop where
  jobs : s'.jobs = s.jobs ++ [(NewJob.ofImport R ctx source).start w.job]
  items : s'.items =
    s.items ++ List.zipWith NewItem.start (rs.map (NewItem.ofRecord w.job)) w.items
  length : w.items.length = rs.length
  nodup : w.items.Nodup
  job_new : ∀ j ∈ s.jobs, j.id ≠ w.job
  items_new : ∀ i ∈ s.items, i.id ∉ w.items
  refusesDeletes : s'.refusesDeletes = s.refusesDeletes
  refusesUpdates : s'.refusesUpdates = s.refusesUpdates

/-! ## Entries that were added -/

theorem map_id_zipWith_start : ∀ {new : List NewItem} {ids : List Uuid},
    ids.length = new.length → (List.zipWith NewItem.start new ids).map Item.id = ids
  | [], [], _ => rfl
  | [], _ :: _, h => by simp at h
  | _ :: _, [], h => by simp at h
  | _ :: new, id :: ids, h => by
    rw [List.zipWith_cons_cons, List.map_cons, map_id_zipWith_start (by simpa using h)]
    rfl

theorem Adds.map_id (h : Adds ctx source rs w s s') :
    (List.zipWith NewItem.start (rs.map (NewItem.ofRecord w.job)) w.items).map Item.id = w.items :=
  map_id_zipWith_start (by simpa using h.length)

theorem Adds.mem_items (h : Adds ctx source rs w s s') {id : Uuid} (hid : id ∈ w.items) :
    id ∈ s'.items.map Item.id := by
  rw [h.items, List.map_append, h.map_id]
  exact List.mem_append_right _ hid

/-- The identifiers of what was added are those of the import, and were new. -/
theorem Adds.extends (h : Adds ctx source rs w s s') :
    MemoryLedger.Extends w { s' with jobs := s.jobs, items := s.items } s' where
  jobs := ⟨_, h.jobs, fun j hj => by simpa using h.job_new j hj, by simp [NewJob.start]⟩
  items := ⟨_, h.items, h.items_new, fun i hi => h.map_id ▸ List.mem_map_of_mem hi⟩
  rest := rfl

/-- Without the items that were added, there are those that were there before. -/
theorem Adds.filter_items (h : Adds ctx source rs w s s') :
    (s'.items.filter fun i => !w.items.contains i.id) = s.items :=
  h.extends.items.filter fun i => by simp

theorem Adds.filter_jobs (h : Adds ctx source rs w s s') :
    (s'.jobs.filter fun j => j.id != w.job) = s.jobs :=
  h.extends.jobs.filter fun j => by simp

/-! ## Taking away -/

/-- **What was added is taken away again.** -/
theorem rollback_eq (h : Adds ctx source rs w s s') (hd : s.refusesDeletes = false) :
    w.rollback s' = (.ok (), { s' with jobs := s.jobs, items := s.items }) :=
  h.extends.rollback (h.refusesDeletes.trans hd)

/-- A ledger that refuses deletions keeps all of it. -/
theorem rollback_error (hd : s.refusesDeletes = true) :
    ∃ e, w.rollback s = (.error e, s) := by
  refine ⟨.store (.refused "delete_task_items"), ?_⟩
  simp [rollback, LedgerStore.deleteItems, MemoryLedger.deleteItems, hd]

theorem discard_eq (h : Adds ctx source rs w s s') (hd : s.refusesDeletes = false) :
    (w.discard s').jobs = s.jobs ∧ (w.discard s').items = s.items := by
  have hd' := h.refusesDeletes.trans hd
  unfold discard
  by_cases hempty : w.items = []
  · have hitems := h.filter_items
    simp only [hempty, List.isEmpty_nil, ↓reduceIte, LedgerStore.deleteJob, MemoryLedger.deleteJob,
      hd', Bool.false_eq_true]
    exact ⟨h.filter_jobs, by simpa [hempty] using hitems⟩
  · simp only [List.isEmpty_iff, hempty, ↓reduceIte, LedgerStore.deleteItems,
      MemoryLedger.deleteItems, LedgerStore.deleteJob, MemoryLedger.deleteJob, hd',
      Bool.false_eq_true]
    exact ⟨h.filter_jobs, h.filter_items⟩

/-- A ledger that refuses deletions discards nothing. -/
theorem discard_eq_of_refused (hd : s.refusesDeletes = true) (w : Written) : w.discard s = s := by
  simp [discard, LedgerStore.deleteItems, MemoryLedger.deleteItems, LedgerStore.deleteJob,
    MemoryLedger.deleteJob, hd]

/-! ## Writing -/

/-- The job that the ledger creates next, and items for records. -/
def drawn (s : MemoryLedger) (rs : List R) : Written :=
  let job := Uuid.drawn s.seed .job s.jobsDrawn
  { job := job
    items := (MemoryLedger.startItems s.seed s.itemsDrawn
      (rs.map (NewItem.ofRecord job))).map Item.id }

/-- The ledger after these were created. -/
def created (ctx : Context) (source : Source) (rs : List R) (s : MemoryLedger) : MemoryLedger :=
  let job := Uuid.drawn s.seed .job s.jobsDrawn
  let items := MemoryLedger.startItems s.seed s.itemsDrawn (rs.map (NewItem.ofRecord job))
  { s with
    jobs := s.jobs ++ [(NewJob.ofImport R ctx source).start job]
    items := s.items ++ items
    jobsDrawn := s.jobsDrawn + 1
    itemsDrawn := s.itemsDrawn + rs.length }

theorem length_drawn (s : MemoryLedger) (rs : List R) : (drawn s rs).items.length = rs.length := by
  simp [drawn, MemoryLedger.length_startItems]

theorem adds_created (h : s.Fresh) (ctx : Context) (source : Source) (rs : List R) :
    Adds ctx source rs (drawn s rs) s (created ctx source rs s) := by
  refine ⟨rfl, ?_, length_drawn s rs, MemoryLedger.nodup_startItems _ _ _, h.next_job,
    fun i hi => h.not_mem_startItems hi, rfl, rfl⟩
  rw [drawn, ← MemoryLedger.startItems_eq]
  rfl

/-- An import is written for as many records as the ledger keeps, and discarded if these are not
all. -/
theorem write_eq (s : MemoryLedger) :
    let kept := rs.take (rs.length - s.lostOnCreate)
    write ctx source now rs s =
      if kept.length = rs.length then (.ok (drawn s kept), created ctx source kept s)
      else (.error (.incompleteItems rs.length kept.length),
        (drawn s kept).discard (created ctx source kept s)) := by
  intro kept
  have hlength : (drawn s kept).items.length = kept.length := length_drawn s kept
  simp only [drawn, List.length_map] at hlength
  simp only [write, writeItems, LedgerStore.createJob, MemoryLedger.createJob,
    LedgerStore.createItems, MemoryLedger.createItems, List.length_map, ← List.map_take]
  rw [hlength]
  rfl

/-- A ledger that loses nothing keeps all records. -/
theorem write_kept {s : MemoryLedger} (hw : s.lostOnCreate = 0) :
    write ctx source now rs s = (.ok (drawn s rs), created ctx source rs s) := by
  rw [write_eq, hw, Nat.sub_zero, List.take_length, if_pos rfl]

/-- Where writing succeeds, nothing was lost. -/
theorem eq_created_of_write_ok (hok : write ctx source now rs s = (.ok w, s')) :
    w = drawn s rs ∧ s' = created ctx source rs s := by
  rw [write_eq] at hok
  split at hok
  · rename_i hlength
    have hkept : rs.take (rs.length - s.lostOnCreate) = rs :=
      List.take_of_length_le (by rw [List.length_take] at hlength; omega)
    rw [hkept] at hok
    simp only [Prod.mk.injEq, Except.ok.injEq] at hok
    exact ⟨hok.1.symm, hok.2.symm⟩
  · simp at hok

/-- **What is written is a job with an item for each record.** -/
theorem write_ok (h : s.Fresh) (hok : write ctx source now rs s = (.ok w, s')) :
    Adds ctx source rs w s s' := by
  obtain ⟨rfl, rfl⟩ := eq_created_of_write_ok hok
  exact adds_created h ctx source rs

/-- **What could not be written leaves the entries as they were**, if the ledger lets it. -/
theorem write_error (h : s.Fresh) (hd : s.refusesDeletes = false) {e : ImportError}
    (herr : write ctx source now rs s = (.error e, s')) :
    s'.jobs = s.jobs ∧ s'.items = s.items := by
  rw [write_eq] at herr
  split at herr
  · simp at herr
  · obtain rfl := (congrArg Prod.snd herr).symm
    exact discard_eq (adds_created h ctx source _) hd

/-- **Where nothing can be deleted, what was written until then stays**: the job, with items for the
first records only. -/
theorem write_error_of_refused (h : s.Fresh) (hd : s.refusesDeletes = true) {e : ImportError}
    (herr : write ctx source now rs s = (.error e, s')) :
    let kept := rs.take (rs.length - s.lostOnCreate)
    kept.length < rs.length ∧ e = .incompleteItems rs.length kept.length ∧
      ∃ w, Adds ctx source kept w s s' := by
  intro kept
  rw [write_eq] at herr
  split at herr
  · exact nomatch congrArg Prod.fst herr
  · rename_i hlost
    have hshort : kept.length ≤ rs.length := List.length_take_le' _ _
    obtain ⟨he, rfl⟩ := Prod.mk.inj herr
    refine ⟨Nat.lt_of_le_of_ne hshort hlost, (Except.error.inj he).symm, drawn s kept, ?_⟩
    rw [discard_eq_of_refused (s := created ctx source kept s) hd]
    exact adds_created h ctx source kept

/-- What was created is taken away, and only the draws of its identifiers are left. -/
theorem rollback_created (h : s.Fresh) (hd : s.refusesDeletes = false) (ctx : Context)
    (source : Source) (rs : List R) :
    (drawn s rs).rollback (created ctx source rs s) = (.ok (), { s with
      jobsDrawn := s.jobsDrawn + 1
      itemsDrawn := s.itemsDrawn + rs.length }) :=
  rollback_eq (adds_created h ctx source rs) hd

/-- What was created came from earlier draws. -/
theorem fresh_created (h : s.Fresh) (ctx : Context) (source : Source) (rs : List R) :
    (created ctx source rs s).Fresh := by
  constructor
  · show Uuid.DrawsFresh s.seed .job (s.jobsDrawn + 1) _
    rw [created, List.map_append]
    refine (h.job.mono (Nat.le_succ _)).append (.of_drawn fun id hid => ?_)
    obtain rfl := List.mem_singleton.mp hid
    exact ⟨.job, s.jobsDrawn, rfl, fun _ => Nat.lt_succ_self _⟩
  · show Uuid.DrawsFresh s.seed .item (s.itemsDrawn + rs.length) _
    rw [created, List.map_append, MemoryLedger.startItems_ids]
    refine (h.item.mono (Nat.le_add_right _ _)).append (.of_drawn fun id hid => ?_)
    obtain ⟨n, hn, rfl⟩ := List.mem_map.mp hid
    have hlt := (List.mem_range'_1.mp hn).2
    rw [List.length_map] at hlt
    exact ⟨.item, n, rfl, fun _ => hlt⟩

theorem fresh_discard (h : s.Fresh) (w : Written) : (w.discard s).Fresh := by
  unfold discard
  split
  · exact h.deleteJob w.job
  · exact (h.deleteItems w.items).deleteJob w.job

theorem fresh_write (h : s.Fresh) (ctx : Context) (source : Source) (now : Instant) (rs : List R) :
    (write ctx source now rs s).2.Fresh := by
  rw [write_eq]
  split
  · exact fresh_created h ctx source _
  · exact fresh_discard (fresh_created h ctx source _) _

theorem fresh_rollback (h : s.Fresh) (w : Written) : (w.rollback s).2.Fresh := by
  have hitems := h.deleteItems w.items
  unfold rollback
  split
  · rename_i ledger hdelete
    rwa [show ledger = (s.deleteItems w.items).2 from (congrArg Prod.snd hdelete).symm]
  · rename_i ledger hdelete
    rw [show ledger = (s.deleteItems w.items).2 from (congrArg Prod.snd hdelete).symm]
    exact hitems.deleteJob w.job

theorem fresh_attach (h : s.Fresh) (w : Written) (flows : List Submitted) :
    (w.attach flows s).2.Fresh := by
  have hitems := h.updateItems (flows.flatMap Submitted.updates)
  unfold attach
  split
  · rename_i ledger hupdate
    rwa [show ledger = (s.updateItems _).2 from (congrArg Prod.snd hupdate).symm]
  · rename_i ledger hupdate
    rw [show ledger = (s.updateItems _).2 from (congrArg Prod.snd hupdate).symm]
    exact hitems.setFlows w.job _

/-! ## Noting flows -/

/-- **Flows are noted in the items that their actions work on, and in the job.** -/
theorem attach_ok (h : Adds ctx source rs w s s') (hu : s.refusesUpdates = false)
    {flows : List Submitted} (hitems : ∀ f ∈ flows, ∀ a ∈ f.itemActions, a.1 ∈ w.items) :
    w.attach flows s' = (.ok (), { s' with
      jobs := s.jobs ++ [{ (NewJob.ofImport R ctx source).start w.job with
        flows := flows.map Submitted.flow }]
      items := s'.items.map (MemoryLedger.applyAll (flows.flatMap Submitted.updates)) }) := by
  have hu' := h.refusesUpdates.trans hu
  have hknown : ∀ u ∈ flows.flatMap Submitted.updates, u.item ∈ s'.items.map Item.id :=
    fun u hu => h.mem_items (mem_of_mem_updates hitems u hu)
  have hjob : s'.jobs.find? (fun j => j.id == w.job) =
      some ((NewJob.ofImport R ctx source).start w.job) := by
    rw [h.jobs, List.find?_append, List.find?_eq_none.mpr fun j hj => by simp [h.job_new j hj]]
    simp [NewJob.start]
  have hjobs : (s'.jobs.map fun j =>
      if j.id = w.job then { j with flows := flows.map Submitted.flow } else j) =
        s.jobs ++ [{ (NewJob.ofImport R ctx source).start w.job with
          flows := flows.map Submitted.flow }] := by
    rw [h.jobs, List.map_append, List.map_singleton, if_pos (by rfl)]
    congr 1
    exact map_eq_self fun j hj => if_neg (h.job_new j hj)
  simp only [attach, LedgerStore.updateItems, MemoryLedger.updateItems, hu', Bool.false_eq_true,
    ↓reduceIte, MemoryLedger.applyUpdates_ok hknown, LedgerStore.setFlows, MemoryLedger.setFlows,
    MemoryLedger.job?, hjob, Option.isNone_some, hjobs]
  rfl

/-- A ledger that refuses updates notes nothing. -/
theorem attach_eq_of_refused (hu : s.refusesUpdates = true) (flows : List Submitted) :
    w.attach flows s = (.error (.store (.refused "update_task_items")), s) := by
  simp [attach, LedgerStore.updateItems, MemoryLedger.updateItems, hu]

theorem attach_refused (hu : s.refusesUpdates = true) (flows : List Submitted) :
    ∃ e, w.attach flows s = (.error e, s) :=
  ⟨_, attach_eq_of_refused hu flows⟩

/-- Noting flows fails with an error of the ledger. -/
theorem attach_error {L : Type} [LedgerStore L] {flows : List Submitted} {ledger ledger' : L}
    {e : ImportError} (h : w.attach flows ledger = (.error e, ledger')) :
    ∃ cause, e = .store cause := by
  unfold attach at h
  split at h
  · exact ⟨_, (Except.error.inj (congrArg Prod.fst h)).symm⟩
  · rename_i ledger₁ _
    rcases hflows : LedgerStore.setFlows w.job (flows.map Submitted.flow) ledger₁ with
      ⟨cause | _, _⟩
    · rw [hflows] at h
      exact ⟨cause, (Except.error.inj (congrArg Prod.fst h)).symm⟩
    · rw [hflows] at h
      exact nomatch congrArg Prod.fst h

/-- The new items, each with the record that it is for. -/
theorem zipWith_start_eq (job : Uuid) (ids : List Uuid) (rs : List R) :
    List.zipWith NewItem.start (rs.map (NewItem.ofRecord job)) ids =
      (ids.zip rs).map fun x => (NewItem.ofRecord job x.2).start x.1 := by
  rw [List.zipWith_map_left, List.zip_eq_zipWith, List.map_zipWith, List.zipWith_comm]

/-- Noting flows in the new items leaves the others alone. -/
theorem Adds.noted (h : Adds ctx source rs w s s') {flows : List Submitted}
    (hitems : ∀ f ∈ flows, ∀ a ∈ f.itemActions, a.1 ∈ w.items) :
    s'.items.map (MemoryLedger.applyAll (flows.flatMap Submitted.updates)) =
      s.items ++ (w.items.zip rs).map fun x =>
        MemoryLedger.applyAll (flows.flatMap Submitted.updates)
          ((NewItem.ofRecord w.job x.2).start x.1) := by
  rw [h.items, zipWith_start_eq, List.map_append, List.map_map]
  congr 1
  refine map_eq_self fun i hi => MemoryLedger.applyAll_of_not_mem fun hm => ?_
  obtain ⟨u, hu, he⟩ := List.mem_map.mp hm
  exact h.items_new i hi (he ▸ mem_of_mem_updates hitems u hu)

end Written

end BalancerImport
