import BalancerImport.Proofs.Ledger.Requests
import BalancerImport.Proofs.Ledger.Rows

/-!
# Tables beside a ledger in memory

Rows stand beside the entries that they hold, and stay so while entries are added, changed and taken
away on both sides.

* `JobRow.Holds`, `ItemRow.Holds`: a row and the entry that it holds; `id_beq`, `job_beq`: what the
  keys of a row say of the entry;
* `ItemRow.Shelf`: items with their rows, which are listed in the order of the items;
* `Shelf.filter`, `Shelf.map`, `Shelf.append`: items that are taken away, changed and added;
* `drawnItems_eq`, `startRows_ids`: the identifiers of new rows;
* **`Shelf.applyUpdates?_some`**, **`Shelf.applyUpdates?_none`**: batches of updates on both sides;
* `Shelf.readAll_listed`: items are read as they are listed.
-/

namespace BalancerImport

/-! ## Jobs -/

/-- A row that holds a job. -/
structure JobRow.Holds (j : Job) (row : JobRow) : Prop where
  fits : j.Fits
  row_eq : ∃ createdAt, row = .ofJob createdAt j

namespace JobRow.Holds

variable {j : Job} {row : JobRow} {id : Uuid} {flows : List Uuid}

theorem read (h : Holds j row) : row.read = .ok j := by
  obtain ⟨createdAt, rfl⟩ := h.row_eq
  exact read_ofJob h.fits createdAt

theorem id_iff (h : Holds j row) (hid : id.Fits) : j.id = id ↔ row.id = id.text := by
  obtain ⟨createdAt, rfl⟩ := h.row_eq
  exact (Uuid.text_eq_iff h.fits.id hid).symm

theorem id_beq (h : Holds j row) (hid : id.Fits) : (j.id == id) = (row.id == id.text) := by
  rw [Bool.eq_iff_iff, beq_iff_eq, beq_iff_eq, h.id_iff hid]

theorem setFlows (h : Holds j row) (hid : id.Fits) (hflows : ∀ f ∈ flows, f.Fits) :
    Holds (if j.id = id then { j with flows := flows } else j)
      (if row.id = id.text then { row with flows := Stored.writeTexts (flows.map Uuid.text) }
        else row) := by
  by_cases he : j.id = id
  · rw [if_pos he, if_pos ((h.id_iff hid).mp he)]
    obtain ⟨createdAt, rfl⟩ := h.row_eq
    exact ⟨⟨h.fits.id, hflows⟩, createdAt, rfl⟩
  · rw [if_neg he, if_neg (mt (h.id_iff hid).mpr he)]
    exact h

end JobRow.Holds

/-! ## Items -/

/-- An update whose identifiers have texts that are read back. -/
structure ItemUpdate.Fits (u : ItemUpdate) : Prop where
  item : u.item.Fits
  flow : u.flow.Fits

instance (u : ItemUpdate) : Decidable u.Fits :=
  decidable_of_iff (u.item.Fits ∧ u.flow.Fits) ⟨fun h => ⟨h.1, h.2⟩, fun h => ⟨h.item, h.flow⟩⟩

/-- A new item whose job and parameters have texts that are read back. -/
structure NewItem.Fits (n : NewItem) : Prop where
  job : n.job.Fits
  param : Json.parse? n.param.render = some n.param

namespace ItemRow

/-- A row that holds an item. -/
structure Holds (i : Item) (row : ItemRow) : Prop where
  fits : i.Fits
  row_eq : ∃ createdAt seq, row = .ofItem createdAt seq i

/-- A row with the flow and the actions of an item set, if it is that of the item. -/
def update (u : ItemUpdate) (row : ItemRow) : ItemRow :=
  if row.id = u.item.text then
    { row with flow := some u.flow.text, actions := Stored.writeTexts u.actions }
  else row

namespace Holds

variable {i : Item} {row : ItemRow} {id : Uuid} {ids : List Uuid} {u : ItemUpdate}

theorem read (h : Holds i row) : row.read = .ok i := by
  obtain ⟨createdAt, seq, rfl⟩ := h.row_eq
  exact read_ofItem h.fits createdAt seq

theorem id_iff (h : Holds i row) (hid : id.Fits) : i.id = id ↔ row.id = id.text := by
  obtain ⟨createdAt, seq, rfl⟩ := h.row_eq
  exact (Uuid.text_eq_iff h.fits.id hid).symm

theorem id_beq (h : Holds i row) (hid : id.Fits) : (i.id == id) = (row.id == id.text) := by
  rw [Bool.eq_iff_iff, beq_iff_eq, beq_iff_eq, h.id_iff hid]

theorem job_beq (h : Holds i row) (hid : id.Fits) : (i.job == id) = (row.job == id.text) := by
  obtain ⟨createdAt, seq, rfl⟩ := h.row_eq
  rw [Bool.eq_iff_iff, beq_iff_eq, beq_iff_eq]
  exact (Uuid.text_eq_iff h.fits.job hid).symm

theorem contains_id (h : Holds i row) (hids : ∀ id ∈ ids, id.Fits) :
    ids.contains i.id = (ids.map Uuid.text).contains row.id := by
  induction ids with
  | nil => rfl
  | cons id ids ih =>
    obtain ⟨hid, hrest⟩ := List.forall_mem_cons.mp hids
    rw [List.map_cons, List.contains_cons, List.contains_cons, ih hrest, h.id_beq hid]

theorem update (h : Holds i row) (hu : u.Fits) :
    Holds (MemoryLedger.applyTo u i) (row.update u) := by
  unfold MemoryLedger.applyTo ItemRow.update
  by_cases he : i.id = u.item
  · rw [if_pos he, if_pos ((h.id_iff hu.item).mp he)]
    obtain ⟨createdAt, seq, rfl⟩ := h.row_eq
    refine ⟨⟨h.fits.id, h.fits.job, fun f hf => ?_, h.fits.param⟩, createdAt, seq, rfl⟩
    rw [← Option.mem_some.mp hf]
    exact hu.flow
  · rw [if_neg he, if_neg (mt (h.id_iff hu.item).mpr he)]
    exact h

end Holds

@[simp] theorem update_createdAt (u : ItemUpdate) (row : ItemRow) :
    (row.update u).createdAt = row.createdAt := by
  unfold update
  split <;> rfl

@[simp] theorem update_seq (u : ItemUpdate) (row : ItemRow) : (row.update u).seq = row.seq := by
  unfold update
  split <;> rfl

/-- An update leaves the place of a row in the list alone. -/
theorem update_le (u : ItemUpdate) (a b : ItemRow) : (a.update u).le (b.update u) = a.le b := by
  simp only [le, update_createdAt, update_seq]

/-! ## Items with their rows -/

/-- Items with their rows, which are listed in the order of the items, and were created before the
`later` moments. -/
structure Shelf (later : List Instant) (items : List Item) (rows : List ItemRow) : Prop where
  held : List.Forall₂ Holds items rows
  listed : rows.Pairwise fun a b => a.le b = true
  early : ∀ row ∈ rows, ∀ now ∈ later, ∃ moment, row.createdAt = .integer moment ∧ moment < now

namespace Shelf

variable {later later' : List Instant} {items : List Item} {rows : List ItemRow} {id : Uuid}
  {us : List ItemUpdate}

theorem nil : Shelf later [] [] := ⟨.nil, .nil, nofun⟩

theorem mono (h : Shelf later items rows) (hsub : later' ⊆ later) : Shelf later' items rows :=
  ⟨h.held, h.listed, fun row hrow now hnow => h.early row hrow now (hsub hnow)⟩

theorem filter (h : Shelf later items rows) {p : Item → Bool} {q : ItemRow → Bool}
    (hpq : ∀ i row, Holds i row → p i = q row) :
    Shelf later (items.filter p) (rows.filter q) where
  held := List.rel_filter (fun i row hrow => Bool.eq_iff_iff.mp (hpq i row hrow)) h.held
  listed := h.listed.filter q
  early row hrow := h.early row (List.mem_of_mem_filter hrow)

theorem map_update (h : Shelf later items rows) {u : ItemUpdate} (hu : u.Fits) :
    Shelf later (items.map (MemoryLedger.applyTo u)) (rows.map (ItemRow.update u)) where
  held := List.rel_map (fun _ _ hrow => hrow.update hu) h.held
  listed := h.listed.map _ fun a b hle => by
    rwa [update_le]
  early row' hrow' := by
    obtain ⟨row, hrow, rfl⟩ := List.mem_map.mp hrow'
    rw [update_createdAt]
    exact h.early row hrow

theorem hasItem_iff (h : Shelf later items rows) (hid : id.Fits) :
    LedgerTables.hasItem id rows = true ↔ id ∈ items.map Item.id := by
  have hany : (items.any fun i => i.id == id) = LedgerTables.hasItem id rows :=
    any_of_forall₂ h.held fun _ _ hrow => hrow.id_beq hid
  rw [← hany, MemoryLedger.any_id_iff]

/-- **A batch of updates of items that exist.** -/
theorem applyUpdates?_some : ∀ {us : List ItemUpdate} {items : List Item} {rows : List ItemRow},
    Shelf later items rows → (∀ u ∈ us, u.Fits) → (∀ u ∈ us, u.item ∈ items.map Item.id) →
    ∃ rows', LedgerTables.applyUpdates? us rows = some rows' ∧
      Shelf later (items.map (MemoryLedger.applyAll us)) rows'
  | [], items, rows, h, _, _ => ⟨rows, rfl, (List.map_id' items).symm ▸ h⟩
  | u :: us, items, rows, h, hfits, hfound => by
    obtain ⟨hu, hrest⟩ := List.forall_mem_cons.mp hfits
    obtain ⟨hfirst, hfound⟩ := List.forall_mem_cons.mp hfound
    have hids := MemoryLedger.map_applyTo_id u items
    obtain ⟨rows', hrows, hshelf⟩ := applyUpdates?_some (h.map_update hu) hrest (hids ▸ hfound)
    refine ⟨rows', ?_, ?_⟩
    · rw [LedgerTables.applyUpdates?, if_pos ((h.hasItem_iff hu.item).mpr hfirst)]
      exact hrows
    · rw [List.map_map] at hshelf
      exact hshelf

theorem applyUpdates?_append : ∀ (us vs : List ItemUpdate) (rows : List ItemRow),
    LedgerTables.applyUpdates? (us ++ vs) rows =
      (LedgerTables.applyUpdates? us rows).bind (LedgerTables.applyUpdates? vs)
  | [], _, _ => rfl
  | u :: us, vs, rows => by
    have ih := applyUpdates?_append us vs (LedgerTables.applyUpdate u rows)
    rw [List.cons_append, LedgerTables.applyUpdates?, LedgerTables.applyUpdates?, ih]
    split
    · rfl
    · rfl

/-- **A batch with an update of a missing item.** -/
theorem applyUpdates?_none (h : Shelf later items rows) {done undone : List ItemUpdate}
    {u : ItemUpdate} (hfits : ∀ v ∈ done ++ u :: undone, v.Fits)
    (hdone : ∀ v ∈ done, v.item ∈ items.map Item.id) (hmissing : u.item ∉ items.map Item.id) :
    LedgerTables.applyUpdates? (done ++ u :: undone) rows = none := by
  have hu : u.Fits := hfits u (List.mem_append_right _ List.mem_cons_self)
  obtain ⟨rows', hrows, hshelf⟩ :=
    h.applyUpdates?_some (fun v hv => hfits v (List.mem_append_left _ hv)) hdone
  have hnone : ¬ LedgerTables.hasItem u.item rows' = true := by
    rw [hshelf.hasItem_iff hu.item, MemoryLedger.map_applyAll_id]
    exact hmissing
  rw [applyUpdates?_append, hrows, Option.bind_some, LedgerTables.applyUpdates?, if_neg hnone]

/-- Items are read as they are listed. -/
theorem readAll_listed (h : Shelf later items rows) :
    readAll (rows.mergeSort ItemRow.le) = .ok items := by
  rw [List.mergeSort_of_pairwise h.listed]
  exact readAll_eq (h.held.imp fun _ _ hrow => hrow.read)

end Shelf

/-! ## New items -/

variable {seed : Nat} {now : Instant}

theorem drawnItems_eq (seed n count : Nat) :
    LedgerTables.drawnItems seed n count = (List.range' n count).map (Uuid.drawn seed .item) := by
  rw [List.range'_eq_map_range, List.map_map]
  rfl

theorem startRows_ids : ∀ (n seq : Nat) (new : List NewItem),
    (LedgerTables.startRows seed now n seq new).map ItemRow.id =
      (LedgerTables.drawnItems seed n new.length).map Uuid.text
  | _, _, [] => rfl
  | n, seq, item :: new => by
    rw [LedgerTables.startRows, List.map_cons, startRows_ids (n + 1) (seq + 1) new, drawnItems_eq,
      drawnItems_eq, List.length_cons, List.range'_succ, List.map_cons, List.map_cons]
    rfl

theorem of_mem_startRows : ∀ {new : List NewItem} {n seq : Nat} {row : ItemRow},
    row ∈ LedgerTables.startRows seed now n seq new →
    row.createdAt = .integer now ∧ ∃ k : Nat, row.seq = .integer k ∧ seq ≤ k
  | item :: new, n, seq, row, h => by
    rcases List.mem_cons.mp h with rfl | h
    · exact ⟨rfl, seq, rfl, Nat.le_refl seq⟩
    · obtain ⟨hmoment, k, hk, hle⟩ := of_mem_startRows h
      exact ⟨hmoment, k, hk, Nat.le_of_succ_le hle⟩

theorem pairwise_startRows : ∀ (new : List NewItem) (n seq : Nat),
    (LedgerTables.startRows seed now n seq new).Pairwise fun a b => a.le b = true
  | [], _, _ => .nil
  | item :: new, n, seq => by
    refine List.pairwise_cons.mpr ⟨fun row hrow => ?_, pairwise_startRows new (n + 1) (seq + 1)⟩
    obtain ⟨hmoment, k, hk, hle⟩ := of_mem_startRows hrow
    exact le_of_seq rfl hmoment rfl hk (Nat.le_of_succ_le hle)

theorem holds_startRows : ∀ (new : List NewItem) (n seq : Nat),
    (∀ k < new.length, (Uuid.drawn seed .item (n + k)).Fits) → (∀ item ∈ new, item.Fits) →
    List.Forall₂ Holds (MemoryLedger.startItems seed n new)
      (LedgerTables.startRows seed now n seq new)
  | [], _, _, _, _ => .nil
  | item :: new, n, seq, hdrawn, hfits => by
    obtain ⟨hitem, hrest⟩ := List.forall_mem_cons.mp hfits
    refine .cons ⟨⟨hdrawn 0 (Nat.succ_pos _), hitem.job, nofun, hitem.param⟩, now, seq, rfl⟩ ?_
    refine holds_startRows new (n + 1) (seq + 1) (fun k hk => ?_) hrest
    have hnext := hdrawn (k + 1) (Nat.succ_lt_succ hk)
    rwa [← Nat.add_assoc, Nat.add_right_comm] at hnext

/-- **New items on both sides**, at the first of the later moments. -/
theorem Shelf.append {later : List Instant} {items : List Item} {rows : List ItemRow}
    (h : Shelf (now :: later) items rows) {new : List NewItem} {n : Nat}
    (hlater : ∀ moment ∈ later, now < moment)
    (hdrawn : ∀ k < new.length, (Uuid.drawn seed .item (n + k)).Fits)
    (hfits : ∀ item ∈ new, item.Fits) :
    Shelf later (items ++ MemoryLedger.startItems seed n new)
      (rows ++ LedgerTables.startRows seed now n 0 new) := by
  constructor
  case held => exact List.rel_append h.held (holds_startRows new n 0 hdrawn hfits)
  case listed =>
    refine List.pairwise_append.mpr ⟨h.listed, pairwise_startRows new n 0, fun a ha b hb => ?_⟩
    obtain ⟨moment, hmoment, hlt⟩ := h.early a ha now List.mem_cons_self
    exact le_of_lt hmoment (of_mem_startRows hb).1 hlt
  case early =>
    intro row hrow moment hm
    rcases List.mem_append.mp hrow with hrow | hrow
    · exact h.early row hrow moment (List.mem_cons_of_mem _ hm)
    · exact ⟨now, (of_mem_startRows hrow).1, hlater moment hm⟩

end ItemRow

end BalancerImport
