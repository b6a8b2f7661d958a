import BalancerImport.Ledger.Tables
import BalancerImport.Proofs.Json.Documents
import BalancerImport.Proofs.Lists
import BalancerImport.Proofs.Text.Uuid

/-!
# Rows of the ledger

The row of an entry is read back as that entry, column by column, and rows are listed by the moment
of their creation and their number.

* `Stored.Readable`: vocabularies whose words are read back;
* `Stored.readId_text`, `Stored.readTexts_writeTexts`, `Stored.readOperations_writeOperations`:
  columns;
* `Job.Fits`, `Item.Fits`: entries that rows can hold;
* **`JobRow.read_ofJob`**, **`ItemRow.read_ofItem`**: rows; `ItemRow.readAll_eq`: many of them;
* `ItemRow.le_of_lt`, `ItemRow.le_of_seq`: the order of rows.
-/

namespace BalancerImport

/-! ## Columns -/

/-- A vocabulary whose words are read back. -/
class Stored.Readable (α : Type) [Stored α] : Prop where
  parse_name : ∀ a : α, Stored.parse (Named.name a) = .ok a

namespace Stored

instance : Readable Source := ⟨fun a => by cases a <;> decide +kernel⟩
instance : Readable Operation := ⟨fun a => by cases a <;> decide +kernel⟩
instance : Readable JobState := ⟨fun a => by cases a <;> decide +kernel⟩
instance : Readable ItemState := ⟨fun a => by cases a <;> decide +kernel⟩
instance : Readable ResourceKind := ⟨fun a => by cases a <;> decide +kernel⟩
instance : Readable LockPurpose := ⟨fun a => by cases a <;> decide +kernel⟩

/-- Words that are read back tell members apart. -/
theorem name_inj {α : Type} [Stored α] [Readable α] {a b : α} (h : Named.name a = Named.name b) :
    a = b := by
  have hread := Readable.parse_name a
  rw [h, Readable.parse_name b] at hread
  exact (Except.ok.inj hread).symm

theorem readVendor_name (v : Vendor) : readVendor (Named.name v) = .ok v := by
  cases v <;> decide +kernel

theorem readId_text {id : Uuid} (h : id.Fits) : readId id.text = .ok id := by
  rw [readId, Uuid.parse?_text h]

theorem readIds_texts : ∀ {ids : List Uuid}, (∀ id ∈ ids, id.Fits) →
    readIds (ids.map Uuid.text) = .ok ids
  | [], _ => rfl
  | id :: ids, h => by
    obtain ⟨hid, hrest⟩ := List.forall_mem_cons.mp h
    rw [List.map_cons, readIds, readId_text hid, readIds_texts hrest]
    rfl

/-- What a document of texts is read as, by any reader. -/
theorem readAs_writeTexts {α : Type} {decode : Json → Option α} {ss : List String} {a : α}
    (h : decode (Json.strs ss) = some a) : readAs decode (writeTexts ss) = .ok a := by
  rw [readAs, writeTexts, Json.parse?_render_strs, Option.bind_some, h]

theorem readTexts_writeTexts (ss : List String) : readTexts (writeTexts ss) = .ok ss :=
  readAs_writeTexts (Json.strs?_strs ss)

theorem readOperations_writeOperations (ops : List Operation) :
    readOperations (writeOperations ops) = .ok ops := by
  refine readAs_writeTexts ?_
  rw [Json.strs, List.map_map, Json.listOf?, Json.allSome_map fun o _ => ?_, List.map_id]
  cases o <;> decide

theorem readJson_render {j : Json} (h : Json.parse? j.render = some j) :
    readJson j.render = .ok j := by
  rw [readJson, readAs, h, Option.bind_some]

end Stored

/-! ## Rows -/

/-- A job whose identifiers have texts that are read back. -/
structure Job.Fits (j : Job) : Prop where
  id : j.id.Fits
  flows : ∀ f ∈ j.flows, f.Fits

/-- **The row of a job is read back.** -/
theorem JobRow.read_ofJob {j : Job} (h : j.Fits) (createdAt : Instant) :
    (JobRow.ofJob createdAt j).read = .ok j := by
  simp only [JobRow.read, JobRow.ofJob, Stored.readTexts_writeTexts, Stored.readId_text h.id,
    Stored.Readable.parse_name, Stored.readVendor_name, Stored.readOperations_writeOperations,
    Stored.readIds_texts h.flows, bind, Except.bind]
  rfl

/-- An item whose identifiers and parameters have texts that are read back. -/
structure Item.Fits (i : Item) : Prop where
  id : i.id.Fits
  job : i.job.Fits
  flow : ∀ f ∈ i.flow, f.Fits
  param : Json.parse? i.param.render = some i.param

namespace ItemRow

variable {i : Item}

theorem readFlow_text {flow : Option Uuid} (h : ∀ f ∈ flow, f.Fits) :
    readFlow (flow.map Uuid.text) = .ok flow := by
  cases flow with
  | none => rfl
  | some f =>
    rw [Option.map_some, readFlow, Stored.readId_text (h f rfl)]
    rfl

/-- **The row of an item is read back.** -/
theorem read_ofItem (h : i.Fits) (createdAt : Instant) (seq : Nat) :
    (ofItem createdAt seq i).read = .ok i := by
  simp only [read, ofItem, Stored.readId_text h.id, Stored.readId_text h.job,
    Stored.Readable.parse_name, Stored.readJson_render h.param, readFlow_text h.flow,
    Stored.readTexts_writeTexts]
  rfl

theorem readAll_eq : ∀ {rows : List ItemRow} {items : List Item},
    List.Forall₂ (fun i row => row.read = .ok i) items rows → readAll rows = .ok items
  | [], _, .nil => rfl
  | row :: rows, _, .cons hrow hrest => by
    rw [readAll, hrow, readAll_eq hrest]
    rfl

theorem le_integer (a b : Int) : (SqlValue.integer a).le (.integer b) = decide (a ≤ b) := by
  have hunit : 0 < Int.pow 2 1074 := Int.pow_pos (by decide)
  simp only [SqlValue.le, SqlValue.number?, Double.scaledInt]
  congr 1
  exact propext (Int.mul_le_mul_right hunit)

variable {a b : ItemRow} {moment moment' : Instant} {n k : Nat}

/-- Items of an earlier moment come first. -/
theorem le_of_lt (ha : a.createdAt = .integer moment) (hb : b.createdAt = .integer moment')
    (h : moment < moment') : a.le b = true := by
  simp [le, SqlValue.lt, ha, hb, le_integer, h]

/-- Items of one moment come in the order of their numbers. -/
theorem le_of_seq (ha : a.createdAt = .integer moment) (hb : b.createdAt = .integer moment)
    (hn : a.seq = .integer n) (hk : b.seq = .integer k) (h : n ≤ k) : a.le b = true := by
  simp [le, ha, hb, hn, hk, le_integer, h]

end ItemRow

end BalancerImport
