import BalancerImport.Proofs.Import.Writing
import BalancerImport.Proofs.Ledger.Mirror
import BalancerImport.Record.Listener

/-!
# Imports that are taken away

Writing an import to a ledger and taking it away again leaves the jobs and the items as they were,
however often flows were noted in between. It does not matter what else is in the ledger, nor
whether noting succeeded: only the identifiers of the import have to be new.

* `Written.extends_of_write`, `Written.extends_of_write_tables`: writing adds an import;
* **`Written.rollback_attachEach`**: what was written is taken away.
-/

namespace BalancerImport.Written

variable {R : Type} [Importable R] {ctx : Context} {source : Source} {now : Instant} {rs : List R}
  {w : Written}

/-! ## In memory -/

/-- What is written extends the ledger, but for the identifiers that were drawn. -/
theorem extends_of_write {s s' : MemoryLedger} (hok : write ctx source now rs s = (.ok w, s'))
    (hjob : ∀ j ∈ s.jobs, j.id ≠ w.job) (hitems : ∀ i ∈ s.items, i.id ∉ w.items) :
    MemoryLedger.Extends w { s with
      jobsDrawn := s.jobsDrawn + 1
      itemsDrawn := s.itemsDrawn + rs.length } s' := by
  obtain ⟨rfl, rfl⟩ := eq_created_of_write_ok hok
  constructor
  case jobs => exact ⟨_, rfl, fun j hj => by simpa using hjob j hj, by simp [NewJob.start, drawn]⟩
  case items => exact ⟨_, rfl, hitems, fun i hi => List.mem_map_of_mem hi⟩
  case rest => rfl

/-! ## In tables -/

/-- Tables lose nothing. -/
theorem write_tables (s : LedgerTables) :
    let job := Uuid.drawn s.seed .job s.jobsDrawn
    write ctx source now rs s =
      (.ok { job, items := LedgerTables.drawnItems s.seed s.itemsDrawn rs.length },
        { s with
          jobs := s.jobs ++ [JobRow.ofJob 0 ((NewJob.ofImport R ctx source).start job)]
          items := s.items ++ LedgerTables.startRows s.seed now s.itemsDrawn 0
            (rs.map (NewItem.ofRecord job))
          jobsDrawn := s.jobsDrawn + 1
          itemsDrawn := s.itemsDrawn + rs.length }) := by
  simp [write, writeItems, LedgerStore.createJob, LedgerTables.createJob, LedgerStore.createItems,
    LedgerTables.createItems, LedgerTables.drawnItems]

theorem extends_of_write_tables {s s' : LedgerTables}
    (hok : write ctx source now rs s = (.ok w, s')) (hjob : ∀ row ∈ s.jobs, row.id ≠ w.job.text)
    (hitems : ∀ row ∈ s.items, row.id ∉ w.items.map Uuid.text) :
    LedgerTables.Extends w { s with
      jobsDrawn := s.jobsDrawn + 1
      itemsDrawn := s.itemsDrawn + rs.length } s' := by
  obtain ⟨hw, rfl⟩ := Prod.mk.inj ((write_tables s).symm.trans hok)
  obtain rfl := Except.ok.inj hw
  constructor
  case jobs =>
    exact ⟨_, rfl, fun row hrow => by simpa using hjob row hrow, by simp [JobRow.ofJob, NewJob.start]⟩
  case items =>
    refine ⟨_, rfl, hitems, fun row hrow => ?_⟩
    have hid := List.mem_map_of_mem (f := ItemRow.id) hrow
    rwa [ItemRow.startRows_ids, List.length_map] at hid
  case rest => rfl

/-! ## Taking away -/

/-- **What was written is taken away**, from either ledger and whatever was in it. Of the import, only
the draws of its identifiers are left, if these were new and the ledger does not refuse deletions;
tables never do. -/
theorem rollback_attachEach (ctx : Context) (source : Source) (now : Instant) (rs : List R)
    (w : Written) {calls : List (List Submitted)}
    (hcalls : ∀ flows ∈ calls, ∀ f ∈ flows, ∀ a ∈ f.itemActions, a.1 ∈ w.items) :
    (∀ s s' : MemoryLedger, write ctx source now rs s = (.ok w, s') → s.refusesDeletes = false →
      (∀ j ∈ s.jobs, j.id ≠ w.job) → (∀ i ∈ s.items, i.id ∉ w.items) →
      w.rollback (w.attachEach calls s') = (.ok (), { s with
        jobsDrawn := s.jobsDrawn + 1
        itemsDrawn := s.itemsDrawn + rs.length })) ∧
      ∀ s s' : LedgerTables, write ctx source now rs s = (.ok w, s') →
        (∀ row ∈ s.jobs, row.id ≠ w.job.text) →
        (∀ row ∈ s.items, row.id ∉ w.items.map Uuid.text) →
        w.rollback (w.attachEach calls s') = (.ok (), { s with
          jobsDrawn := s.jobsDrawn + 1
          itemsDrawn := s.itemsDrawn + rs.length }) := by
  constructor
  · intro s s' hok hdeletes hjob hitems
    have hwritten := extends_of_write hok hjob hitems
    exact ((MemoryLedger.keptByNoting_extends w _).attachEach hcalls hwritten).rollback hdeletes
  · intro s s' hok hjob hitems
    have hwritten := extends_of_write_tables hok hjob hitems
    exact ((LedgerTables.keptByNoting_extends w _).attachEach hcalls hwritten).rollback

/-- An import of two records after another one of a single record. -/
def sampleWritten : Written :=
  { job := Uuid.drawn 0 .job 1, items := [Uuid.drawn 0 .item 1, Uuid.drawn 0 .item 2] }

/-- Flows in both of its items, and later another flow in one of them. -/
def sampleCalls : List (List Submitted) :=
  let noted (n : Nat) (itemActions : List (Uuid × String)) : Submitted :=
    { flow := Uuid.drawn 0 .flow n, watch := Uuid.drawn 0 .watch n, key := ⟨.loadBalancer, "lb-1"⟩,
      itemActions }
  [[noted 0 [(Uuid.drawn 0 .item 1, "1"), (Uuid.drawn 0 .item 2, "2")]],
    [noted 1 [(Uuid.drawn 0 .item 2, "1")]]]

/-- Imports of listeners that nobody asked anything of. -/
def writeBlank {L : Type} [LedgerStore L] (now : Instant) (count : Nat) (ledger : L) :
    Except ImportError Written × L :=
  write ⟨.tcloud, 7, "a", []⟩ .excel now (List.replicate count ListenerRecord.blank) ledger

theorem rollback_attachEach_second :
    let m := (writeBlank 1 1 (MemoryLedger.empty 0)).2
    let t := (writeBlank 1 1 (LedgerTables.empty 0)).2
    (∀ flows ∈ sampleCalls, ∀ f ∈ flows, ∀ a ∈ f.itemActions, a.1 ∈ sampleWritten.items) ∧
      (writeBlank 2 2 m).1 = .ok sampleWritten ∧ (writeBlank 2 2 t).1 = .ok sampleWritten ∧
      sampleWritten.rollback (sampleWritten.attachEach sampleCalls (writeBlank 2 2 m).2) =
        (.ok (), { m with jobsDrawn := 2, itemsDrawn := 3 }) ∧
      sampleWritten.rollback (sampleWritten.attachEach sampleCalls (writeBlank 2 2 t).2) =
        (.ok (), { t with jobsDrawn := 2, itemsDrawn := 3 }) := by
  intro m t
  have hcalls : ∀ flows ∈ sampleCalls, ∀ f ∈ flows, ∀ a ∈ f.itemActions,
      a.1 ∈ sampleWritten.items := by decide
  have hm : (writeBlank 2 2 m).1 = .ok sampleWritten := rfl
  have ht : (writeBlank 2 2 t).1 = .ok sampleWritten := rfl
  obtain ⟨hmemory, htables⟩ := rollback_attachEach ⟨.tcloud, 7, "a", []⟩ .excel 2
    (List.replicate 2 ListenerRecord.blank) sampleWritten hcalls
  refine ⟨hcalls, hm, ht, ?_, ?_⟩
  · exact hmemory m _ (Prod.ext hm rfl) rfl (by decide) (by decide)
  · exact htables t _ (Prod.ext ht rfl) (by decide +kernel) (by decide +kernel)

end BalancerImport.Written
