import BalancerImport.Import.Writing
import BalancerImport.Ledger.Tables
import BalancerImport.Proofs.Ledger.Requests

/-!
# Ledgers that an import was added to

What an import adds to a ledger stays apart from what was there: noting flows changes nothing else,
and taking the import away leaves the ledger as it was. This holds for both ledgers, whatever is in
them.

* `Written.KeptByNoting`: what noting flows in the items of an import does not change;
  `KeptByNoting.attachEach`: however often they are noted, whether it succeeds or not;
* `MemoryLedger.Extends`, `LedgerTables.Extends`: a ledger with an import added;
  `keptByNoting_extends`: noting flows; **`Extends.rollback`**: taking it away.
-/

namespace BalancerImport

variable {w : Written}

/-! ## Noting flows -/

namespace Written

variable {L : Type} [LedgerStore L] {P : L → Prop} {ledger : L}

/-- A ledger after flows were noted in it several times, whatever the answers were. -/
def attachEach (w : Written) (calls : List (List Submitted)) (ledger : L) : L :=
  calls.foldl (fun ledger flows => (w.attach flows ledger).2) ledger

/-- A property of ledgers that updates of an import's items and of its job do not change. -/
structure KeptByNoting (w : Written) (P : L → Prop) : Prop where
  updateItems : ∀ {ledger us}, P ledger → (∀ u ∈ us, u.item ∈ w.items) →
    P (LedgerStore.updateItems us ledger).2
  setFlows : ∀ {ledger} flows, P ledger → P (LedgerStore.setFlows w.job flows ledger).2

/-- The items that flows work on are those of their updates. -/
theorem mem_of_mem_updates {flows : List Submitted} {items : List Uuid}
    (hitems : ∀ f ∈ flows, ∀ a ∈ f.itemActions, a.1 ∈ items) :
    ∀ u ∈ flows.flatMap Submitted.updates, u.item ∈ items := by
  intro u hu
  obtain ⟨f, hf, huf⟩ := List.mem_flatMap.mp hu
  obtain ⟨a, ha, rfl⟩ := List.mem_map.mp huf
  exact hitems f hf a ha

theorem KeptByNoting.attach (h : KeptByNoting w P) (hledger : P ledger) {flows : List Submitted}
    (hitems : ∀ f ∈ flows, ∀ a ∈ f.itemActions, a.1 ∈ w.items) : P (w.attach flows ledger).2 := by
  have hupdated := h.updateItems hledger (mem_of_mem_updates hitems)
  unfold Written.attach
  split
  · rename_i hupdate
    rwa [hupdate] at hupdated
  · rename_i hupdate
    rw [hupdate] at hupdated
    exact h.setFlows _ hupdated

/-- **Flows may be noted any number of times.** -/
theorem KeptByNoting.attachEach (h : KeptByNoting w P) {calls : List (List Submitted)}
    (hitems : ∀ flows ∈ calls, ∀ f ∈ flows, ∀ a ∈ f.itemActions, a.1 ∈ w.items) (hledger : P ledger) :
    P (w.attachEach calls ledger) := by
  induction calls generalizing ledger with
  | nil => exact hledger
  | cons flows calls ih =>
    obtain ⟨hflows, hcalls⟩ := List.forall_mem_cons.mp hitems
    exact ih hcalls (h.attach hledger hflows)

/-- Taking away is deleting the items and then the job. -/
theorem rollback_eq_ok {kept left : L}
    (hitems : LedgerStore.deleteItems w.items ledger = (.ok (), kept))
    (hjob : LedgerStore.deleteJob w.job kept = (.ok (), left)) :
    w.rollback ledger = (.ok (), left) := by
  rw [rollback, hitems]
  simp only [hjob, Except.mapError]

end Written

/-! ## In memory -/

namespace MemoryLedger

variable {s s' : MemoryLedger}

/-- A ledger is another one with an import added: a job and items with identifiers that were new. -/
structure Extends (w : Written) (s s' : MemoryLedger) : Prop where
  jobs : Extended Job.id [w.job] s.jobs s'.jobs
  items : Extended Item.id w.items s.items s'.items
  /-- Apart from the entries, the ledgers are the same. -/
  rest : { s' with jobs := s.jobs, items := s.items } = s

/-- Updates change only what was added, even where they end at a missing item. -/
theorem extended_applyUpdates {ids : List Uuid} {old : List Item} :
    ∀ {us : List ItemUpdate} {items : List Item}, Extended Item.id ids old items →
      (∀ u ∈ us, u.item ∈ ids) → Extended Item.id ids old (applyUpdates us items).2
  | [], _, h, _ => h
  | u :: us, items, h, hus => by
    obtain ⟨hu, hus⟩ := List.forall_mem_cons.mp hus
    unfold applyUpdates
    split
    · refine extended_applyUpdates (h.map (applyTo_id u) fun i hi => if_neg fun he => ?_) hus
      exact hi (he ▸ hu)
    · exact h

theorem keptByNoting_extends (w : Written) (s : MemoryLedger) : w.KeptByNoting (Extends w s) := by
  constructor
  case updateItems =>
    intro s' us h hus
    change Extends w s (s'.updateItems us).2
    unfold MemoryLedger.updateItems
    split
    · exact h
    · exact ⟨h.jobs, extended_applyUpdates h.items hus, h.rest⟩
  case setFlows =>
    intro s' flows h
    change Extends w s (s'.setFlows w.job flows).2
    unfold MemoryLedger.setFlows
    split
    · exact h
    split
    · exact h
    · refine ⟨h.jobs.map (fun j => ?_) fun j hj => if_neg fun he => ?_, h.items, h.rest⟩
      · split <;> rfl
      · exact hj (he ▸ List.mem_singleton_self _)

/-- **Taking the import away leaves the ledger as it was**, if it lets it. -/
theorem Extends.rollback (h : Extends w s s') (hd : s.refusesDeletes = false) :
    w.rollback s' = (.ok (), s) := by
  have hd' : s'.refusesDeletes = false := (congrArg MemoryLedger.refusesDeletes h.rest).trans hd
  have hitems : (s'.items.filter fun i => !w.items.contains i.id) = s.items :=
    h.items.filter fun i => by simp
  have hjobs : (s'.jobs.filter fun j => j.id != w.job) = s.jobs := h.jobs.filter fun j => by simp
  have hkept : LedgerStore.deleteItems w.items s' = (.ok (), { s' with items := s.items }) := by
    change s'.deleteItems w.items = _
    rw [deleteItems, hd', if_neg Bool.false_ne_true, hitems]
  refine Written.rollback_eq_ok hkept ?_
  change MemoryLedger.deleteJob w.job _ = _
  rw [deleteJob, if_neg (by rw [hd']; exact Bool.false_ne_true), hjobs, h.rest]

end MemoryLedger

/-! ## In tables -/

namespace LedgerTables

variable {s s' : LedgerTables}

/-- Tables are others with an import added: a job and items with identifiers that were new. -/
structure Extends (w : Written) (s s' : LedgerTables) : Prop where
  jobs : Extended JobRow.id [w.job.text] s.jobs s'.jobs
  items : Extended ItemRow.id (w.items.map Uuid.text) s.items s'.items
  /-- Apart from the rows, the tables are the same. -/
  rest : { s' with jobs := s.jobs, items := s.items } = s

/-- A batch of updates that takes effect changes only what was added. -/
theorem extended_applyUpdates {ids : List Uuid} {old : List ItemRow} :
    ∀ {us : List ItemUpdate} {rows rows' : List ItemRow},
      Extended ItemRow.id (ids.map Uuid.text) old rows → (∀ u ∈ us, u.item ∈ ids) →
      applyUpdates? us rows = some rows' → Extended ItemRow.id (ids.map Uuid.text) old rows'
  | [], _, _, h, _, hrows => Option.some.inj hrows ▸ h
  | u :: us, rows, _, h, hus, hrows => by
    obtain ⟨hu, hus⟩ := List.forall_mem_cons.mp hus
    unfold applyUpdates? at hrows
    split at hrows
    · refine extended_applyUpdates (h.map (fun row => ?_) fun row hrow => if_neg fun he => ?_) hus hrows
      · split <;> rfl
      · exact hrow (he ▸ List.mem_map_of_mem hu)
    · exact nomatch hrows

theorem keptByNoting_extends (w : Written) (s : LedgerTables) : w.KeptByNoting (Extends w s) := by
  constructor
  case updateItems =>
    intro s' us h hus
    change Extends w s (s'.updateItems us).2
    unfold LedgerTables.updateItems
    split
    · rename_i hrows
      exact ⟨h.jobs, extended_applyUpdates h.items hus hrows, h.rest⟩
    · exact h
  case setFlows =>
    intro s' flows h
    change Extends w s (s'.setFlows w.job flows).2
    unfold LedgerTables.setFlows
    dsimp only
    split
    · refine ⟨h.jobs.map (fun row => ?_) fun row hrow => if_neg fun he => ?_, h.items, h.rest⟩
      · split <;> rfl
      · exact hrow (he ▸ List.mem_singleton_self _)
    · exact h

/-- **Taking the import away leaves the tables as they were.** -/
theorem Extends.rollback (h : Extends w s s') : w.rollback s' = (.ok (), s) := by
  have hitems : (s'.items.filter fun row => !(w.items.map Uuid.text).contains row.id) = s.items :=
    h.items.filter fun row => by simp
  have hjobs : (s'.jobs.filter fun row => row.id != w.job.text) = s.jobs :=
    h.jobs.filter fun row => by simp
  have hkept : LedgerStore.deleteItems w.items s' = (.ok (), { s' with items := s.items }) := by
    change s'.deleteItems w.items = _
    rw [deleteItems, hitems]
  refine Written.rollback_eq_ok hkept ?_
  change LedgerTables.deleteJob w.job _ = _
  rw [deleteJob, hjobs, h.rest]

end LedgerTables

end BalancerImport
