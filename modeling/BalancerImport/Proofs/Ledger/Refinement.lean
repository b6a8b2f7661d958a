import BalancerImport.Proofs.Ledger.Mirror

/-!
# A ledger in tables refines one in memory

Asked the same from the beginning, both ledgers give the same answers, until a batch of updates names
an item that does not exist. Both refuse such a batch; the tables take none of it, the ledger in
memory what stands before that item.

* `LedgerRequest`, `LedgerAnswer`: what a ledger can be asked, and what it answers;
* `LedgerRequest.Admissible`: requests whose texts are read back, with items at later and later
  moments;
* `MemoryLedger.Mirrors`: tables beside a ledger in memory, with requests to come;
  `Mirrors.agrees`: one request, **`Mirrors.agrees_after`**: many of them;
* **`LedgerTables.refines_memory`**: from the beginning, up to a batch that is refused.
-/

namespace BalancerImport

/-! ## Requests -/

/-- What a ledger can be asked. -/
inductive LedgerRequest where
  | createJob (new : NewJob)
  | createItems (now : Instant) (new : List NewItem)
  | setFlows (job : Uuid) (flows : List Uuid)
  | updateItems (updates : List ItemUpdate)
  | deleteJob (job : Uuid)
  | deleteItems (items : List Uuid)
  | findJob (job : Uuid)
  | listItems (job : Uuid)

/-- What a ledger answers. -/
inductive LedgerAnswer where
  | job (created : Uuid)
  | items (created : List Uuid)
  | done
  | foundJob (found : Option Job)
  | foundItems (found : List Item)

namespace LedgerRequest

/-- The answer to a request, and the ledger that it leaves. -/
def serve {σ : Type} [LedgerStore σ] : LedgerRequest → σ → Except StoreError LedgerAnswer × σ
  | createJob new, s =>
    let (answer, s) := LedgerStore.createJob new s
    (answer.map .job, s)
  | createItems now new, s =>
    let (answer, s) := LedgerStore.createItems now new s
    (answer.map .items, s)
  | setFlows job flows, s =>
    let (answer, s) := LedgerStore.setFlows job flows s
    (answer.map fun _ => .done, s)
  | updateItems updates, s =>
    let (answer, s) := LedgerStore.updateItems updates s
    (answer.map fun _ => .done, s)
  | deleteJob job, s =>
    let (answer, s) := LedgerStore.deleteJob job s
    (answer.map fun _ => .done, s)
  | deleteItems items, s =>
    let (answer, s) := LedgerStore.deleteItems items s
    (answer.map fun _ => .done, s)
  | findJob job, s => ((LedgerStore.job? job s).map .foundJob, s)
  | listItems job, s => ((LedgerStore.itemsOf job s).map .foundItems, s)

/-- The moment at which items are created. -/
def moment? : LedgerRequest → Option Instant
  | createItems now _ => some now
  | _ => none

/-- How many entries are created. -/
def created : LedgerRequest → Nat
  | createJob _ => 1
  | createItems _ new => new.length
  | _ => 0

/-- A request whose identifiers and parameters have texts that are read back. -/
def Fits : LedgerRequest → Prop
  | createJob _ => True
  | createItems _ new => ∀ item ∈ new, item.Fits
  | setFlows job flows => job.Fits ∧ ∀ f ∈ flows, f.Fits
  | updateItems updates => ∀ u ∈ updates, u.Fits
  | deleteJob job => job.Fits
  | deleteItems items => ∀ id ∈ items, id.Fits
  | findJob job => job.Fits
  | listItems job => job.Fits

/-- A request that is no batch of updates with a missing item. -/
def Complete (m : MemoryLedger) : LedgerRequest → Prop
  | updateItems updates => ∀ u ∈ updates, u.item ∈ m.items.map Item.id
  | _ => True

instance (m : MemoryLedger) (r : LedgerRequest) : Decidable (r.Complete m) :=
  match r with
  | updateItems updates =>
    inferInstanceAs (Decidable (∀ u ∈ updates, u.item ∈ m.items.map Item.id))
  | createJob _ | createItems _ _ | setFlows _ _ | deleteJob _ | deleteItems _ | findJob _
  | listItems _ => .isTrue trivial

/-- Requests whose texts are read back, with items at later and later moments, and identifiers for
all that is created. -/
structure Admissible (seed : Nat) (rs : List LedgerRequest) : Prop where
  fits : ∀ r ∈ rs, r.Fits
  moments : (rs.filterMap moment?).Pairwise (· < ·)
  room : seed + 4 * (rs.map created).sum ≤ 2 ^ 128

end LedgerRequest

namespace LedgerStore

variable {σ : Type} [LedgerStore σ]

/-- The answers to requests, one after the other. -/
def answers : List LedgerRequest → σ → List (Except StoreError LedgerAnswer)
  | [], _ => []
  | r :: rs, s => (r.serve s).1 :: answers rs (r.serve s).2

/-- A ledger after requests. -/
def after : List LedgerRequest → σ → σ
  | [], s => s
  | r :: rs, s => after rs (r.serve s).2

end LedgerStore

/-- Whether no batch of updates among the requests names an item that is missing by then. -/
def MemoryLedger.NoneMissing : List LedgerRequest → MemoryLedger → Prop
  | [], _ => True
  | r :: rs, m => r.Complete m ∧ NoneMissing rs (r.serve m).2

instance MemoryLedger.decidableNoneMissing : ∀ (rs : List LedgerRequest) (m : MemoryLedger),
    Decidable (m.NoneMissing rs)
  | [], _ => .isTrue trivial
  | r :: rs, m =>
    have := decidableNoneMissing rs (r.serve m).2
    inferInstanceAs (Decidable (r.Complete m ∧ NoneMissing rs (r.serve m).2))

/-! ## Both ledgers side by side -/

open LedgerRequest (Admissible)

/-- Tables that hold the entries of a ledger in memory, with requests to come. -/
structure MemoryLedger.Mirrors (rest : List LedgerRequest) (m : MemoryLedger) (t : LedgerTables) :
    Prop where
  jobs : List.Forall₂ JobRow.Holds m.jobs t.jobs
  items : ItemRow.Shelf (rest.filterMap LedgerRequest.moment?) m.items t.items
  jobsDrawn : t.jobsDrawn = m.jobsDrawn
  itemsDrawn : t.itemsDrawn = m.itemsDrawn
  seed : t.seed = m.seed
  losesNone : m.lostOnCreate = 0
  deletes : m.refusesDeletes = false
  updates : m.refusesUpdates = false
  room : m.seed + 4 * (m.jobsDrawn + m.itemsDrawn + (rest.map LedgerRequest.created).sum) ≤ 2 ^ 128

theorem Uuid.fits_drawn {seed n : Nat} {family : IdFamily} (h : seed + 4 * (n + 1) ≤ 2 ^ 128) :
    (Uuid.drawn seed family n).Fits := by
  have hindex : family.index < 4 := by cases family <;> decide
  show seed + 4 * n + family.index < 2 ^ 128
  omega

namespace MemoryLedger.Mirrors

variable {rest : List LedgerRequest} {m : MemoryLedger} {t : LedgerTables} {r : LedgerRequest}

/-- Both ledgers give the same answer to a request, and are side by side afterwards. -/
structure Agrees (r : LedgerRequest) (rest : List LedgerRequest) (m : MemoryLedger)
    (t : LedgerTables) : Prop where
  answer : (r.serve m).1 = (r.serve t).1
  mirrors : (r.serve m).2.Mirrors rest (r.serve t).2

/-- The first of the requests to come is none any more. -/
theorem next (h : m.Mirrors (r :: rest) t) : m.Mirrors rest t :=
  { h with
    items := h.items.mono fun now hnow => by
      rw [List.filterMap_cons]
      split
      · exact hnow
      · exact List.mem_cons_of_mem _ hnow
    room := by
      have hroom := h.room
      rw [List.map_cons, List.sum_cons] at hroom
      omega }

theorem agrees_createJob {new : NewJob} (h : m.Mirrors (.createJob new :: rest) t) :
    Agrees (.createJob new) rest m t := by
  have hroom := h.room
  rw [List.map_cons, List.sum_cons, LedgerRequest.created] at hroom
  have hfits : (Uuid.drawn m.seed .job m.jobsDrawn).Fits := Uuid.fits_drawn (by omega)
  constructor <;>
    simp only [LedgerRequest.serve, LedgerStore.createJob, MemoryLedger.createJob,
      LedgerTables.createJob, h.seed, h.jobsDrawn]
  exact
    { h.next with
      jobs := List.rel_append h.jobs (.cons ⟨⟨hfits, nofun⟩, 0, rfl⟩ .nil)
      jobsDrawn := rfl
      seed := rfl
      room := by
        show m.seed + 4 * (m.jobsDrawn + 1 + m.itemsDrawn + _) ≤ 2 ^ 128
        omega }

theorem agrees_createItems {now : Instant} {new : List NewItem}
    (h : m.Mirrors (.createItems now new :: rest) t) (hfits : ∀ item ∈ new, item.Fits)
    (hlater : ∀ moment ∈ rest.filterMap LedgerRequest.moment?, now < moment) :
    Agrees (.createItems now new) rest m t := by
  have hroom := h.room
  rw [List.map_cons, List.sum_cons, LedgerRequest.created] at hroom
  have hkept : new.take (new.length - m.lostOnCreate) = new := by
    rw [h.losesNone]
    exact List.take_length
  have hids : (startItems m.seed m.itemsDrawn new).map Item.id =
      LedgerTables.drawnItems m.seed m.itemsDrawn new.length := by
    rw [startItems_ids, ItemRow.drawnItems_eq]
  have hdrawn : ∀ k < new.length, (Uuid.drawn m.seed .item (m.itemsDrawn + k)).Fits :=
    fun k hk => Uuid.fits_drawn (by omega)
  constructor <;>
    simp only [LedgerRequest.serve, LedgerStore.createItems, MemoryLedger.createItems,
      LedgerTables.createItems, h.seed, h.itemsDrawn, hkept, hids, length_startItems]
  exact
    { h.next with
      items := h.items.append hlater hdrawn hfits
      itemsDrawn := rfl
      seed := rfl
      room := by
        show m.seed + 4 * (m.jobsDrawn + (m.itemsDrawn + new.length) + _) ≤ 2 ^ 128
        omega }

theorem agrees_setFlows {job : Uuid} {flows : List Uuid}
    (h : m.Mirrors (.setFlows job flows :: rest) t) (hjob : job.Fits)
    (hflows : ∀ f ∈ flows, f.Fits) : Agrees (.setFlows job flows) rest m t := by
  have hany : (m.jobs.any fun j => j.id == job) = t.jobs.any fun row => row.id == job.text :=
    any_of_forall₂ h.jobs fun _ _ hrow => hrow.id_beq hjob
  have hfound : (m.job? job).isNone = !(m.jobs.any fun j => j.id == job) := by
    rw [MemoryLedger.job?, ← List.isSome_find?, Option.not_isSome]
  have hset := List.rel_map (fun _ _ hrow => JobRow.Holds.setFlows hrow hjob hflows) h.jobs
  cases hjobs : t.jobs.any fun row => row.id == job.text with
  | false =>
    constructor <;>
      simp only [LedgerRequest.serve, LedgerStore.setFlows, MemoryLedger.setFlows,
        LedgerTables.setFlows, h.updates, hfound, hany, hjobs, Bool.not_false, Bool.false_eq_true,
        if_true, if_false]
    exact h.next
  | true =>
    constructor <;>
      simp only [LedgerRequest.serve, LedgerStore.setFlows, MemoryLedger.setFlows,
        LedgerTables.setFlows, h.updates, hfound, hany, hjobs, Bool.not_true, Bool.false_eq_true,
        if_true, if_false]
    exact { h.next with jobs := hset, updates := rfl }

theorem agrees_updateItems {updates : List ItemUpdate}
    (h : m.Mirrors (.updateItems updates :: rest) t) (hfits : ∀ u ∈ updates, u.Fits)
    (hfound : ∀ u ∈ updates, u.item ∈ m.items.map Item.id) :
    Agrees (.updateItems updates) rest m t := by
  obtain ⟨rows, hrows, hshelf⟩ := h.next.items.applyUpdates?_some hfits hfound
  constructor <;>
    simp only [LedgerRequest.serve, LedgerStore.updateItems, MemoryLedger.updateItems,
      LedgerTables.updateItems, h.updates, Bool.false_eq_true, if_false, applyUpdates_ok hfound,
      hrows]
  exact { h.next with items := hshelf, updates := rfl }

theorem agrees_deleteJob {job : Uuid} (h : m.Mirrors (.deleteJob job :: rest) t)
    (hjob : job.Fits) : Agrees (.deleteJob job) rest m t := by
  have hrest : List.Forall₂ JobRow.Holds (m.jobs.filter fun j => j.id != job)
      (t.jobs.filter fun row => row.id != job.text) :=
    List.rel_filter (fun j row hrow => by simp only [bne, hrow.id_beq hjob]) h.jobs
  constructor <;>
    simp only [LedgerRequest.serve, LedgerStore.deleteJob, MemoryLedger.deleteJob,
      LedgerTables.deleteJob, h.deletes, Bool.false_eq_true, if_false]
  exact { h.next with jobs := hrest, deletes := rfl }

theorem agrees_deleteItems {items : List Uuid} (h : m.Mirrors (.deleteItems items :: rest) t)
    (hitems : ∀ id ∈ items, id.Fits) : Agrees (.deleteItems items) rest m t := by
  constructor <;>
    simp only [LedgerRequest.serve, LedgerStore.deleteItems, MemoryLedger.deleteItems,
      LedgerTables.deleteItems, h.deletes, Bool.false_eq_true, if_false]
  exact
    { h.next with
      items := h.next.items.filter fun _ _ hrow => congrArg not (hrow.contains_id hitems)
      deletes := rfl }

theorem agrees_findJob {job : Uuid} (h : m.Mirrors (.findJob job :: rest) t) (hjob : job.Fits) :
    Agrees (.findJob job) rest m t := by
  refine ⟨?_, h.next⟩
  simp only [LedgerRequest.serve, LedgerStore.job?, MemoryLedger.job?, LedgerTables.job?]
  rcases find?_of_forall₂ h.jobs fun _ _ hrow => hrow.id_beq hjob with
    ⟨hm, ht⟩ | ⟨j, row, hm, ht, hrow⟩
  · rw [hm, ht]
  · rw [hm, ht]
    simp only [hrow.read]
    rfl

theorem agrees_listItems {job : Uuid} (h : m.Mirrors (.listItems job :: rest) t)
    (hjob : job.Fits) : Agrees (.listItems job) rest m t := by
  refine ⟨?_, h.next⟩
  have hread := (h.next.items.filter fun _ _ hrow => hrow.job_beq hjob).readAll_listed
  simp only [LedgerRequest.serve, LedgerStore.itemsOf, MemoryLedger.itemsOf, LedgerTables.itemsOf,
    hread]

/-- **Both ledgers agree on a request** that is no batch of updates with a missing item. -/
theorem agrees (h : m.Mirrors (r :: rest) t) (hfits : r.Fits)
    (hmoments : ((r :: rest).filterMap LedgerRequest.moment?).Pairwise (· < ·))
    (hcomplete : r.Complete m) : Agrees r rest m t := by
  cases r with
  | createJob new => exact h.agrees_createJob
  | createItems now new => exact h.agrees_createItems hfits (List.pairwise_cons.mp hmoments).1
  | setFlows job flows => exact h.agrees_setFlows hfits.1 hfits.2
  | updateItems updates => exact h.agrees_updateItems hfits hcomplete
  | deleteJob job => exact h.agrees_deleteJob hfits
  | deleteItems items => exact h.agrees_deleteItems hfits
  | findJob job => exact h.agrees_findJob hfits
  | listItems job => exact h.agrees_listItems hfits

/-- **Both ledgers agree on requests**, one after the other. -/
theorem agrees_after : ∀ {before : List LedgerRequest} {m : MemoryLedger} {t : LedgerTables},
    m.Mirrors (before ++ rest) t → (∀ r ∈ before, r.Fits) →
    ((before ++ rest).filterMap LedgerRequest.moment?).Pairwise (· < ·) → m.NoneMissing before →
    LedgerStore.answers before m = LedgerStore.answers before t ∧
      (LedgerStore.after before m).Mirrors rest (LedgerStore.after before t)
  | [], _, _, h, _, _, _ => ⟨rfl, h⟩
  | r :: before, m, t, h, hfits, hmoments, hnone => by
    obtain ⟨hr, hrest⟩ := List.forall_mem_cons.mp hfits
    obtain ⟨hcomplete, hnone⟩ := hnone
    have hagrees := h.agrees hr hmoments hcomplete
    have hmoments' : ((before ++ rest).filterMap LedgerRequest.moment?).Pairwise (· < ·) := by
      rw [List.cons_append, List.filterMap_cons] at hmoments
      split at hmoments
      · exact hmoments
      · exact (List.pairwise_cons.mp hmoments).2
    obtain ⟨hanswers, hmirrors⟩ := agrees_after hagrees.mirrors hrest hmoments' hnone
    exact ⟨congrArg₂ List.cons hagrees.answer hanswers, hmirrors⟩

/-- **A batch with a missing item is refused by both ledgers.** -/
theorem refused {done undone : List ItemUpdate} {u : ItemUpdate}
    (h : m.Mirrors (.updateItems (done ++ u :: undone) :: rest) t)
    (hfits : ∀ v ∈ done ++ u :: undone, v.Fits) (hdone : ∀ v ∈ done, v.item ∈ m.items.map Item.id)
    (hmissing : u.item ∉ m.items.map Item.id) :
    m.updateItems (done ++ u :: undone) =
        (.error (.unknownItem u.item), { m with items := m.items.map (applyAll done) }) ∧
      t.updateItems (done ++ u :: undone) = (.error .unknownItemInBatch, t) := by
  constructor
  · rw [MemoryLedger.updateItems, h.updates, applyUpdates_missing hdone hmissing]
    rfl
  · rw [LedgerTables.updateItems, h.items.applyUpdates?_none hfits hdone hmissing]

end MemoryLedger.Mirrors

/-! ## From the beginning -/

/-- Both ledgers are empty at first. -/
theorem MemoryLedger.mirrors_empty {seed : Nat} {rs : List LedgerRequest} (h : Admissible seed rs) :
    (MemoryLedger.empty seed).Mirrors rs (LedgerTables.empty seed) where
  jobs := .nil
  items := .nil
  jobsDrawn := rfl
  itemsDrawn := rfl
  seed := rfl
  losesNone := rfl
  deletes := rfl
  updates := rfl
  room := by
    have hroom := h.room
    show seed + 4 * (0 + 0 + _) ≤ 2 ^ 128
    omega

namespace LedgerTables

/-- **The tables answer as the ledger in memory does** to all requests before a batch of updates with
a missing item. Such a batch both refuse, since something was not found: the tables stay as they
are, and in memory those updates are applied that stand before the first one of a missing item. -/
theorem refines_memory {seed : Nat} {before rest : List LedgerRequest}
    (h : Admissible seed (before ++ rest)) (hnone : (MemoryLedger.empty seed).NoneMissing before) :
    LedgerStore.answers before (MemoryLedger.empty seed) =
        LedgerStore.answers before (LedgerTables.empty seed) ∧
      ∀ (done undone : List ItemUpdate) (u : ItemUpdate) (later : List LedgerRequest),
        rest = .updateItems (done ++ u :: undone) :: later →
        let m := LedgerStore.after before (MemoryLedger.empty seed)
        let t := LedgerStore.after before (LedgerTables.empty seed)
        (∀ v ∈ done, v.item ∈ m.items.map Item.id) → u.item ∉ m.items.map Item.id →
        (∃ e, m.updateItems (done ++ u :: undone) =
            (.error e, { m with items := m.items.map (MemoryLedger.applyAll done) }) ∧
            e.category = .notFound) ∧
          ∃ e, t.updateItems (done ++ u :: undone) = (.error e, t) ∧ e.category = .notFound := by
  have hbefore : ∀ r ∈ before, r.Fits := fun r hr => h.fits r (List.mem_append_left _ hr)
  obtain ⟨hanswers, hmirrors⟩ :=
    (MemoryLedger.mirrors_empty h).agrees_after hbefore h.moments hnone
  refine ⟨hanswers, ?_⟩
  rintro done undone u later rfl m t hdone hmissing
  have hbatch : LedgerRequest.Fits (.updateItems (done ++ u :: undone)) :=
    h.fits _ (List.mem_append_right _ List.mem_cons_self)
  obtain ⟨hm, ht⟩ := hmirrors.refused hbatch hdone hmissing
  exact ⟨⟨_, hm, rfl⟩, ⟨_, ht, rfl⟩⟩

/-- The items of two batches are updated, one of them twice, and one is deleted. -/
def sampleRequests : List LedgerRequest :=
  [.createJob { business := 7, source := .excel, vendor := .tcloud, account := "a",
                resource := .loadBalancer, operations := [.createListener, .bindBackend] },
    .createItems 1 [⟨Uuid.drawn 0 .job 0, .createListener, .null⟩,
      ⟨Uuid.drawn 0 .job 0, .bindBackend, .str "b"⟩],
    .createItems 2 [⟨Uuid.drawn 0 .job 0, .createListener, .bool true⟩],
    .setFlows (Uuid.drawn 0 .job 0) [Uuid.drawn 0 .flow 0],
    .updateItems [⟨Uuid.drawn 0 .item 2, Uuid.drawn 0 .flow 0, ["1"]⟩,
      ⟨Uuid.drawn 0 .item 0, Uuid.drawn 0 .flow 0, ["2"]⟩,
      ⟨Uuid.drawn 0 .item 2, Uuid.drawn 0 .flow 1, ["1", "2"]⟩],
    .deleteItems [Uuid.drawn 0 .item 1], .listItems (Uuid.drawn 0 .job 0),
    .findJob (Uuid.drawn 0 .job 0)]

/-- An update of one of the items. -/
def sampleUpdate (n : Nat) : ItemUpdate := ⟨Uuid.drawn 0 .item n, Uuid.drawn 0 .flow 1, ["3"]⟩

/-- Updates of all items, the second of which was deleted. -/
def sampleBatch : LedgerRequest :=
  .updateItems ([sampleUpdate 0] ++ sampleUpdate 1 :: [sampleUpdate 2])

theorem admissible_sample : Admissible 0 (sampleRequests ++ [sampleBatch]) := by
  constructor
  case fits =>
    simp only [sampleRequests, sampleBatch, List.cons_append, List.nil_append, List.forall_mem_cons,
      LedgerRequest.Fits]
    refine ⟨trivial, ⟨?_, ?_, nofun⟩, ⟨?_, nofun⟩, by decide, by decide, by decide, by decide,
      by decide, by decide, nofun⟩
    all_goals exact ⟨by decide, by with_unfolding_all rfl⟩
  case moments => decide
  case room => decide

theorem refines_memory_sample :
    Admissible 0 (sampleRequests ++ [sampleBatch]) ∧
      (MemoryLedger.empty 0).NoneMissing sampleRequests ∧
      LedgerStore.answers sampleRequests (MemoryLedger.empty 0) =
        LedgerStore.answers sampleRequests (LedgerTables.empty 0) ∧
      let m := LedgerStore.after sampleRequests (MemoryLedger.empty 0)
      let t := LedgerStore.after sampleRequests (LedgerTables.empty 0)
      (∃ e, m.updateItems ([sampleUpdate 0] ++ sampleUpdate 1 :: [sampleUpdate 2]) =
          (.error e, { m with items := m.items.map (MemoryLedger.applyAll [sampleUpdate 0]) }) ∧
          e.category = .notFound) ∧
        ∃ e, t.updateItems ([sampleUpdate 0] ++ sampleUpdate 1 :: [sampleUpdate 2]) = (.error e, t) ∧
          e.category = .notFound := by
  have hnone : (MemoryLedger.empty 0).NoneMissing sampleRequests := by decide
  obtain ⟨hanswers, hrefused⟩ := refines_memory admissible_sample hnone
  refine ⟨admissible_sample, hnone, hanswers, ?_⟩
  exact hrefused [sampleUpdate 0] [sampleUpdate 2] (sampleUpdate 1) [] rfl (by decide) (by decide)

end LedgerTables

end BalancerImport
