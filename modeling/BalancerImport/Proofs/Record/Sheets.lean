import BalancerImport.Record.Listener
import BalancerImport.Record.Backend
import BalancerImport.Record.Sheet
import BalancerImport.Proofs.Lists
import BalancerImport.Proofs.Text.Raised
import Mathlib.Data.List.GetD

/-!
# Sheets that are read row by row

A cell is read by the column that it stands under, into a field of the record that no other column
sets. So a cell that is missing counts as one that is blank, a row is read without looking at the
others, and the first cell that is not taken is the one that is reported.

* `Column.Sets`, `Column.Apart`: columns that set fields, and different ones;
  `Column.Takes`, `Column.Refuses`: which cells they take;
* `Sheet.Fits`, `Sheet.SameCells`, `Sheet.RowFault`: rows that are read, that are read alike, and
  what is reported of the others; `Tabular.readRow_eq`, `readRow_eq_error`;
* `readRowsFrom_eq_ok`, `readRowsFrom_eq_error`: all rows of a sheet;
* `ListenerRecord.OfRow`, `BackendRecord.OfRow`: the record of a row;
* **`Sheet.readRows_by_rows`**: the sheets of both kinds of records.
-/

namespace BalancerImport

/-! ## Columns -/

namespace Column

variable {R V V' : Type} {c c' column : Column R} {cell : String} {fault : CellFault}

/-- A column that sets a field of a record to the value of a cell. -/
def setting (name : String) (value : String → Except CellFault V) (set : V → R → R) : Column R :=
  { name := name, read := fun cell r => (value cell).map fun v => set v r }

/-- A column sets a field. -/
def Sets (column : Column R) : Prop :=
  ∃ (V : Type) (value : String → Except CellFault V) (set : V → R → R),
    column = setting column.name value set

/-- A column takes a cell, whatever the record is that it is read into. -/
def Takes (column : Column R) (cell : String) : Prop :=
  ∀ r, ∃ r', column.read (Text.trim cell) r = .ok r'

/-- A column does not take a cell, whatever the record is, for a reason. -/
def Refuses (column : Column R) (cell : String) (fault : CellFault) : Prop :=
  ∀ r, column.read (Text.trim cell) r = .error fault

theorem Sets.takes_or_refuses (h : column.Sets) (cell : String) :
    column.Takes cell ∨ ∃ fault, column.Refuses cell fault := by
  obtain ⟨V, value, set, hsetting⟩ := h
  rw [hsetting]
  cases hvalue : value (Text.trim cell) with
  | ok v => exact .inl fun r => ⟨set v r, by simp only [setting, hvalue]; rfl⟩
  | error fault => exact .inr ⟨fault, fun r => by simp only [setting, hvalue]; rfl⟩

theorem Refuses.not_takes (h : column.Refuses cell fault) (r : R) : ¬ column.Takes cell := by
  intro htakes
  obtain ⟨r', hr'⟩ := htakes r
  exact nomatch hr'.symm.trans (h r)

theorem Refuses.unique {fault' : CellFault} (h : column.Refuses cell fault)
    (h' : column.Refuses cell fault') (r : R) : fault = fault' :=
  Except.error.inj ((h r).symm.trans (h' r))

/-- What a cell of the second column leaves as it is, it also leaves as it is once a cell of the
first column has been read. -/
def Apart (c c' : Column R) : Prop :=
  ∀ {cell cell' : String} {r r' : R}, c.read cell r = .ok r' → c'.read cell' r = .ok r →
    c'.read cell' r' = .ok r'

/-- Fields that can be set in either order are apart. -/
theorem apart_setting {name name' : String} {value : String → Except CellFault V}
    {value' : String → Except CellFault V'} {set : V → R → R} {set' : V' → R → R}
    (hcomm : ∀ v v' r, set' v' (set v r) = set v (set' v' r)) :
    (setting name value set).Apart (setting name' value' set') := by
  intro cell cell' r r' h h'
  obtain ⟨v, -, rfl⟩ := map_ok h
  obtain ⟨v', hv', hsame⟩ := map_ok h'
  change (value' cell').map _ = _
  rw [hv']
  change Except.ok (set' v' (set v r)) = _
  rw [hcomm, hsame]

theorem text_eq (name : String) (set : String → R → R) :
    Column.text name set = setting name .ok set := rfl

theorem ports_eq (name : String) (set : List Nat → R → R) :
    Column.ports name set = setting name Cell.parsePorts set := rfl

theorem sets_text (name : String) (set : String → R → R) : (Column.text name set).Sets :=
  ⟨String, .ok, set, rfl⟩

theorem sets_ports (name : String) (set : List Nat → R → R) : (Column.ports name set).Sets :=
  ⟨List Nat, Cell.parsePorts, set, rfl⟩

end Column

namespace Sheet

variable {R : Type} {columns : List (Column R)} {blank r r' : R} {line width : Nat}
  {row row' cells : List String} {rows rows' : List (List String)} {fault : SheetFault}

/-- Columns that set fields of their own, which a blank cell leaves as they are in the record of a
row of blank cells. -/
structure Tabular (columns : List (Column R)) (blank : R) : Prop where
  sets : ∀ column ∈ columns, column.Sets
  apart : columns.Pairwise Column.Apart
  blank_read : ∀ column ∈ columns, column.read "" blank = .ok blank

/-! ## Cells of a row -/

/-- A row with blank cells up to a width. -/
def padded (width : Nat) (row : List String) : List String :=
  row ++ List.replicate (width - row.length) ""

/-- The cell of a row at a position, without the white space around it. A cell that is missing is
blank. -/
def cellAt (row : List String) (i : Nat) : String := Text.trim (row.getD i "")

theorem trim_cellAt (row : List String) (i : Nat) : Text.trim (cellAt row i) = cellAt row i :=
  Text.trim_trim _

theorem map_trim_padded (h : row.length ≤ width) :
    (padded width row).map Text.trim = (List.range width).map (cellAt row) := by
  refine List.ext_getElem (by simp [padded, h]) fun i hi _ => ?_
  simp only [List.getElem_map, List.getElem_range, cellAt, padded, List.getElem_append]
  split
  · rename_i hrow
    rw [List.getD_eq_getElem _ _ hrow]
  · rename_i hrow
    rw [List.getD_eq_default _ _ (Nat.not_lt.mp hrow), List.getElem_replicate]

/-- Two rows that fit into a width have the same cells, up to blank cells at the end and to the
white space around a cell. -/
structure SameCells (width : Nat) (row row' : List String) : Prop where
  length_le : row.length ≤ width
  length_le' : row'.length ≤ width
  trimmed : (padded width row).map Text.trim = (padded width row').map Text.trim

/-- A column takes the cell of a row in it. -/
def Taken (x : Column R × String) : Prop := x.1.Takes x.2

/-- A column does not take the cell of a row in it, and this is reported. -/
def Reported (line : Nat) (fault : SheetFault) (x : Column R × String) : Prop :=
  ∃ cause, x.1.Refuses x.2 cause ∧ fault = .badCell line x.1.name cause

theorem Reported.not_taken {x : Column R × String} (h : Reported line fault x) (r : R) :
    ¬ Taken x := by
  obtain ⟨cause, hrefuses, -⟩ := h
  exact hrefuses.not_takes r

/-- A row is no longer than the sheet is wide, and each of its cells is taken. -/
structure Fits (columns : List (Column R)) (row : List String) : Prop where
  length_le : row.length ≤ columns.length
  taken : ∀ x ∈ columns.zip row, Taken x

/-- What is reported of a row: that it is too long or, if it is not, its first cell that is not
taken. -/
inductive RowFault (columns : List (Column R)) (line : Nat) (row : List String) : SheetFault → Prop
  | long : columns.length < row.length →
      RowFault columns line row (.longRow line row.length columns.length)
  | cell {fault : SheetFault} : row.length ≤ columns.length →
      AtFirst Taken (fun _ => Reported line fault) (columns.zip row) →
      RowFault columns line row fault

theorem readCells_map_trim (line : Nat) :
    ∀ (columns : List (Column R)) (cells : List String) (r : R),
      readCells line columns (cells.map Text.trim) r = readCells line columns cells r
  | [], _, _ => by simp only [readCells]
  | _ :: _, [], _ => rfl
  | column :: columns, cell :: cells, r => by
    simp only [List.map_cons, readCells, Text.trim_trim]
    cases column.read (Text.trim cell) r with
    | error _ => rfl
    | ok r => exact readCells_map_trim line columns cells r

theorem readCells_blanks : ∀ {columns : List (Column R)},
    (∀ column ∈ columns, column.read "" r = .ok r) →
    ∀ n, readCells line columns (List.replicate n "") r = .ok r
  | [], _, _ => by simp only [readCells]
  | _ :: _, _, 0 => rfl
  | column :: columns, h, n + 1 => by
    have hcolumn : column.read (Text.trim "") r = .ok r := h column List.mem_cons_self
    simp only [List.replicate_succ, readCells, hcolumn]
    exact readCells_blanks (fun c hc => h c (List.mem_cons_of_mem _ hc)) n

/-- Blank cells at the end of a row change nothing, if no cell makes a difference to what a blank
cell of another column does. -/
theorem readCells_append_blanks : ∀ {columns : List (Column R)} {cells : List String} {r : R},
    columns.Pairwise Column.Apart → (∀ column ∈ columns, column.read "" r = .ok r) →
    ∀ n, readCells line columns (cells ++ List.replicate n "") r = readCells line columns cells r
  | [], _, _, _, _, _ => by simp only [readCells]
  | columns, [], r, _, hblank, n => by
    rw [List.nil_append, readCells_blanks hblank]
    cases columns <;> rfl
  | column :: columns, cell :: cells, r, hapart, hblank, n => by
    obtain ⟨hfirst, hrest⟩ := List.pairwise_cons.mp hapart
    simp only [List.cons_append, readCells]
    cases hread : column.read (Text.trim cell) r with
    | error _ => rfl
    | ok r' =>
      refine readCells_append_blanks hrest (fun c hc => ?_) n
      exact hfirst c hc hread (hblank c (List.mem_cons_of_mem _ hc))

theorem Tabular.readRow_padded (ht : Tabular columns blank) (h : row.length ≤ columns.length) :
    readRow columns blank line row =
      readCells line columns ((padded columns.length row).map Text.trim) blank := by
  rw [readRow, if_neg (Nat.not_lt.mpr h), readCells_map_trim, padded,
    readCells_append_blanks ht.apart ht.blank_read]

/-- **Rows with the same cells are read alike.** -/
theorem Tabular.readRow_eq (ht : Tabular columns blank) (h : SameCells columns.length row row') :
    readRow columns blank line row' = readRow columns blank line row := by
  rw [ht.readRow_padded h.length_le', ← h.trimmed, ht.readRow_padded h.length_le]

/-- What a cell is read as does not depend on the line. -/
theorem readCells_ok_line (line' : Nat) :
    ∀ {columns : List (Column R)} {cells : List String} {r : R},
      readCells line columns cells r = .ok r' → readCells line' columns cells r = .ok r'
  | [], _, _, h => by simpa only [readCells] using h
  | _ :: _, [], _, h => h
  | column :: columns, cell :: cells, r, h => by
    simp only [readCells] at h ⊢
    cases hread : column.read (Text.trim cell) r with
    | error _ => exact nomatch hread ▸ h
    | ok _ =>
      rw [hread] at h
      exact readCells_ok_line line' h

/-- **Cells are read if all are taken.** -/
theorem exists_readCells_iff : ∀ {columns : List (Column R)} {cells : List String} (r : R),
    (∀ column ∈ columns, column.Sets) →
    ((∃ r', readCells line columns cells r = .ok r') ↔ ∀ x ∈ columns.zip cells, Taken x)
  | [], _, r, _ => iff_of_true ⟨r, by simp only [readCells]⟩ nofun
  | _ :: _, [], r, _ => iff_of_true ⟨r, rfl⟩ nofun
  | column :: columns, cell :: cells, r, hsets => by
    obtain ⟨hfirst, hrest⟩ := List.forall_mem_cons.mp hsets
    rw [List.zip_cons_cons, List.forall_mem_cons]
    rcases hfirst.takes_or_refuses cell with htakes | ⟨cause, hrefuses⟩
    · obtain ⟨r', hr'⟩ := htakes r
      have htaken : Taken (column, cell) := htakes
      simp only [readCells, hr', htaken, true_and]
      exact exists_readCells_iff r' hrest
    · have hnot : ¬ Taken (column, cell) := hrefuses.not_takes r
      simp [readCells, hrefuses r, hnot]

/-- **The first cell that is not taken is reported.** -/
theorem readCells_eq_error : ∀ {columns : List (Column R)} {cells : List String} (r : R),
    (∀ column ∈ columns, column.Sets) → (readCells line columns cells r = .error fault ↔
      AtFirst Taken (fun _ => Reported line fault) (columns.zip cells))
  | [], _, r, _ => by
    simp only [readCells]
    exact iff_of_false nofun not_atFirst_nil
  | _ :: _, [], r, _ => iff_of_false nofun not_atFirst_nil
  | column :: columns, cell :: cells, r, hsets => by
    obtain ⟨hfirst, hrest⟩ := List.forall_mem_cons.mp hsets
    rw [List.zip_cons_cons]
    rcases hfirst.takes_or_refuses cell with htakes | ⟨cause, hrefuses⟩
    · obtain ⟨r', hr'⟩ := htakes r
      have htaken : Taken (column, cell) := htakes
      rw [atFirst_cons_of_good htaken fun h => h.not_taken r htaken, ← readCells_eq_error r' hrest]
      simp only [readCells, hr']
    · have hnot : ¬ Taken (column, cell) := hrefuses.not_takes r
      rw [atFirst_cons_of_not_good hnot]
      simp only [readCells, hrefuses r, Except.error.injEq]
      constructor
      · rintro rfl
        exact ⟨cause, hrefuses, rfl⟩
      · rintro ⟨cause', hcause, rfl⟩
        rw [hrefuses.unique hcause r]

/-! ## Rows -/

theorem readRow_ok_line (line' : Nat) (h : readRow columns blank line row = .ok r) :
    readRow columns blank line' row = .ok r := by
  rw [readRow] at h ⊢
  split at h
  · exact nomatch h
  · rename_i hlength
    rw [if_neg hlength]
    exact readCells_ok_line line' h

theorem exists_readRow_iff (hsets : ∀ column ∈ columns, column.Sets) :
    (∃ r, readRow columns blank line row = .ok r) ↔ Fits columns row := by
  rw [readRow]
  split
  · rename_i hlength
    exact iff_of_false nofun fun h => absurd h.length_le (Nat.not_le.mpr hlength)
  · rename_i hlength
    rw [exists_readCells_iff blank hsets]
    exact ⟨fun h => ⟨Nat.not_lt.mp hlength, h⟩, Fits.taken⟩

/-- **What is reported of a row.** -/
theorem readRow_eq_error (hsets : ∀ column ∈ columns, column.Sets) :
    readRow columns blank line row = .error fault ↔ RowFault columns line row fault := by
  rw [readRow]
  split
  · rename_i hlength
    constructor
    · rintro ⟨⟩
      exact .long hlength
    · rintro (_ | ⟨hle, -⟩)
      · rfl
      · exact absurd hle (Nat.not_le.mpr hlength)
  · rename_i hlength
    rw [readCells_eq_error blank hsets]
    constructor
    · exact .cell (Nat.not_lt.mp hlength)
    · rintro (hlong | ⟨-, h⟩)
      · exact absurd hlong hlength
      · exact h

/-- **Each record is what its row is read as.** -/
theorem readRowsFrom_eq_ok : ∀ {line : Nat} {rows : List (List String)} {rs : List R},
    readRowsFrom columns blank line rows = .ok rs ↔
      List.Forall₂ (fun row r => readRow columns blank 1 row = .ok r) rows rs
  | _, [], rs => by
    rw [readRowsFrom, List.forall₂_nil_left_iff, Except.ok.injEq, eq_comm]
  | line, row :: rows, rs => by
    rw [readRowsFrom, List.forall₂_cons_left_iff]
    cases hrow : readRow columns blank line row with
    | error e =>
      refine iff_of_false nofun ?_
      rintro ⟨r, _, h, -⟩
      exact nomatch hrow.symm.trans (readRow_ok_line line h)
    | ok r =>
      constructor
      · intro h
        obtain ⟨rest, hrest, rfl⟩ := map_ok h
        exact ⟨r, rest, readRow_ok_line 1 hrow, readRowsFrom_eq_ok.mp hrest, rfl⟩
      · rintro ⟨r', rest, h, hrest, rfl⟩
        obtain rfl := Except.ok.inj (hrow.symm.trans (readRow_ok_line line h))
        simp only [readRowsFrom_eq_ok.mpr hrest]
        rfl

/-- **The first row that does not fit is reported.** -/
theorem readRowsFrom_eq_error (hsets : ∀ column ∈ columns, column.Sets) :
    ∀ {line : Nat} {rows : List (List String)},
      readRowsFrom columns blank line rows = .error fault ↔
        AtFirst (Fits columns) (fun n row => RowFault columns (line + n) row fault) rows
  | _, [] => iff_of_false nofun not_atFirst_nil
  | line, row :: rows => by
    have hfits : (∃ r, readRow columns blank line row = .ok r) ↔ Fits columns row :=
      exists_readRow_iff hsets
    have hfault : readRow columns blank line row = .error fault ↔ RowFault columns line row fault :=
      readRow_eq_error hsets
    have hrest : readRowsFrom columns blank (line + 1) rows = .error fault ↔
        AtFirst (Fits columns) (fun n row => RowFault columns (line + (n + 1)) row fault) rows := by
      simp only [readRowsFrom_eq_error hsets, Nat.add_assoc, Nat.add_comm 1]
    rw [readRowsFrom]
    cases hrow : readRow columns blank line row with
    | error e =>
      rw [hrow] at hfits hfault
      rw [atFirst_cons_of_not_good fun h => nomatch hfits.mpr h]
      simpa using hfault
    | ok r =>
      rw [hrow] at hfits hfault
      rw [atFirst_cons_of_good (hfits.mp ⟨r, rfl⟩) (fun h => nomatch hfault.mpr h), ← hrest]
      cases readRowsFrom columns blank (line + 1) rows <;> simp [Except.map]

/-- How a sheet is read: row by row, by the position of the cells in a row, with blank cells for
those that are missing. What a row is read as is said by `ofRow`. -/
structure ReadByRows {R : Type} [Importable R] (ofRow : List String → R → Prop)
    (rows : List (List String)) : Prop where
  /-- All rows are read if each fits. -/
  exists_iff : (∃ rs : List R, readRows rows = .ok rs) ↔
    ∀ row ∈ rows, Fits (Importable.columns (R := R)) row
  /-- Each record is what its row, by itself, is read as. -/
  rowwise : ∀ rs, readRows rows = .ok rs ↔ List.Forall₂ ofRow rows rs
  /-- A row may be written in another way with the same cells. -/
  same_cells : ∀ rows', List.Forall₂ (SameCells (Importable.columns (R := R)).length) rows rows' →
    readRows (R := R) rows' = readRows rows
  /-- The first row that does not fit is reported, by its number. -/
  error_iff : ∀ fault, readRows (R := R) rows = .error fault ↔
    AtFirst (Fits (Importable.columns (R := R)))
      (fun n row => RowFault (Importable.columns (R := R)) (n + 1) row fault) rows

theorem readRowsFrom_same_cells (ht : Tabular columns blank) {rows rows' : List (List String)}
    (h : List.Forall₂ (SameCells columns.length) rows rows') : ∀ line,
    readRowsFrom columns blank line rows' = readRowsFrom columns blank line rows := by
  induction h with
  | nil => exact fun _ => rfl
  | cons hcells _ ih =>
    intro line
    simp only [readRowsFrom, ht.readRow_eq hcells, ih]

theorem Tabular.readByRows [Importable R] {ofRow : List String → R → Prop}
    (ht : Tabular (Importable.columns (R := R)) Importable.blank)
    (hrow : ∀ {row r}, readRow Importable.columns Importable.blank 1 row = .ok r ↔ ofRow row r)
    (rows : List (List String)) : ReadByRows ofRow rows where
  exists_iff := by
    simp only [readRows, readRowsFrom_eq_ok, exists_forall₂_iff, exists_readRow_iff ht.sets]
  rowwise rs := by
    simp only [readRows, readRowsFrom_eq_ok, hrow]
  same_cells rows' h := readRowsFrom_same_cells ht h 1
  error_iff fault := by
    simp only [readRows, readRowsFrom_eq_error ht.sets, Nat.add_comm 1]

end Sheet

/-! ## Kinds of records -/

theorem ListenerRecord.tabular : Sheet.Tabular columns blank where
  sets := by
    simp only [columns, List.forall_mem_cons]
    exact ⟨Column.sets_text _ _, Column.sets_text _ _, Column.sets_text _ _, Column.sets_ports _ _,
      Column.sets_text _ _, Column.sets_text _ _, Column.sets_text _ _, Column.sets_text _ _, nofun⟩
  apart := by
    simp only [columns, Column.text_eq, Column.ports_eq, List.pairwise_cons, List.forall_mem_cons,
      List.not_mem_nil, IsEmpty.forall_iff, implies_true, List.Pairwise.nil, and_true]
    and_intros
    all_goals
      refine Column.apart_setting ?_
      intro _ _ _
      rfl
  blank_read := by decide

theorem BackendRecord.tabular : Sheet.Tabular columns blank where
  sets := by
    simp only [columns, List.forall_mem_cons]
    exact ⟨Column.sets_text _ _, Column.sets_text _ _, Column.sets_text _ _, Column.sets_ports _ _,
      Column.sets_text _ _, Column.sets_text _ _, Column.sets_text _ _, Column.sets_text _ _,
      Column.sets_ports _ _, ⟨_, Cell.parseWeight, _, rfl⟩, Column.sets_text _ _,
      Column.sets_text _ _, nofun⟩
  apart := by
    simp only [columns, Column.text_eq, Column.ports_eq, List.pairwise_cons, List.forall_mem_cons,
      List.not_mem_nil, IsEmpty.forall_iff, implies_true, List.Pairwise.nil, and_true]
    and_intros
    all_goals
      refine Column.apart_setting ?_
      intro _ _ _
      rfl
  blank_read := by decide

/-- A row that fits, and the listener record with the values of its cells. -/
structure ListenerRecord.OfRow (row : List String) (r : ListenerRecord) : Prop where
  length_le : row.length ≤ columns.length
  ports : Cell.parsePorts (Sheet.cellAt row 3) = .ok r.ports
  fields : r =
    { vip := Sheet.cellAt row 0, balancer := Sheet.cellAt row 1,
      protocol := Text.upper (Sheet.cellAt row 2), ports := r.ports,
      sslMode := Text.upper (Sheet.cellAt row 4),
      certificates := Cell.splitIds (Sheet.cellAt row 5), ca := Sheet.cellAt row 6,
      remark := Sheet.cellAt row 7, state := .initial, lbId := none }

/-- A row that fits, and the backend record with the values of its cells. -/
structure BackendRecord.OfRow (row : List String) (r : BackendRecord) : Prop where
  length_le : row.length ≤ columns.length
  ports : Cell.parsePorts (Sheet.cellAt row 3) = .ok r.ports
  backendPorts : Cell.parsePorts (Sheet.cellAt row 8) = .ok r.backendPorts
  weight : Cell.parseWeight (Sheet.cellAt row 9) = .ok r.weight
  fields : r =
    { vip := Sheet.cellAt row 0, balancer := Sheet.cellAt row 1,
      protocol := Text.upper (Sheet.cellAt row 2), ports := r.ports,
      domain := Sheet.cellAt row 4, path := Sheet.cellAt row 5,
      kind := Text.upper (Sheet.cellAt row 6), ip := Sheet.cellAt row 7,
      backendPorts := r.backendPorts, weight := r.weight, remark := Sheet.cellAt row 10,
      backendRemark := Sheet.cellAt row 11, state := .initial, lbId := none,
      targetGroup := none, inst := none }

theorem ListenerRecord.readRow_iff {row : List String} {r : ListenerRecord} :
    Sheet.readRow columns blank 1 row = .ok r ↔ OfRow row r := by
  by_cases hlength : row.length ≤ columns.length
  · rw [tabular.readRow_padded hlength, Sheet.map_trim_padded hlength]
    simp only [columns, List.length_cons, List.length_nil, List.range, List.range.loop,
      List.map_cons, List.map_nil, Sheet.readCells, Sheet.trim_cellAt, Column.text, Column.ports]
    cases hports : Cell.parsePorts (Sheet.cellAt row 3) with
    | error e => exact iff_of_false nofun fun h => nomatch hports.symm.trans h.ports
    | ok ports =>
      constructor
      · rintro ⟨⟩
        exact ⟨hlength, hports, rfl⟩
      · rintro ⟨-, h, hr⟩
        obtain rfl := Except.ok.inj (hports.symm.trans h)
        rw [hr]
        rfl
  · rw [Sheet.readRow, if_pos (Nat.not_le.mp hlength)]
    exact iff_of_false nofun fun h => hlength h.length_le

theorem BackendRecord.readRow_iff {row : List String} {r : BackendRecord} :
    Sheet.readRow columns blank 1 row = .ok r ↔ OfRow row r := by
  by_cases hlength : row.length ≤ columns.length
  · rw [tabular.readRow_padded hlength, Sheet.map_trim_padded hlength]
    simp only [columns, List.length_cons, List.length_nil, List.range, List.range.loop,
      List.map_cons, List.map_nil, Sheet.readCells, Sheet.trim_cellAt, Column.text, Column.ports]
    cases hports : Cell.parsePorts (Sheet.cellAt row 3) with
    | error e => exact iff_of_false nofun fun h => nomatch hports.symm.trans h.ports
    | ok ports =>
    cases hbackend : Cell.parsePorts (Sheet.cellAt row 8) with
    | error e => exact iff_of_false nofun fun h => nomatch hbackend.symm.trans h.backendPorts
    | ok backendPorts =>
    cases hweight : Cell.parseWeight (Sheet.cellAt row 9) with
    | error e => exact iff_of_false nofun fun h => nomatch hweight.symm.trans h.weight
    | ok weight =>
      constructor
      · rintro ⟨⟩
        exact ⟨hlength, hports, hbackend, hweight, rfl⟩
      · rintro ⟨-, h, h', h'', hr⟩
        obtain rfl := Except.ok.inj (hports.symm.trans h)
        obtain rfl := Except.ok.inj (hbackend.symm.trans h')
        obtain rfl := Except.ok.inj (hweight.symm.trans h'')
        rw [hr]
        rfl
  · rw [Sheet.readRow, if_pos (Nat.not_le.mp hlength)]
    exact iff_of_false nofun fun h => hlength h.length_le

/-- **Sheets of both kinds are read row by row.** -/
theorem Sheet.readRows_by_rows (rows : List (List String)) :
    ReadByRows ListenerRecord.OfRow rows ∧ ReadByRows BackendRecord.OfRow rows :=
  ⟨ListenerRecord.tabular.readByRows ListenerRecord.readRow_iff rows,
    BackendRecord.tabular.readByRows BackendRecord.readRow_iff rows⟩

-- A row that is too long is reported as such, whatever its cells are.
example : Sheet.readRows (R := ListenerRecord) [["  a "], ["b", "", "", "x", "", "", "", "", ""]] =
    .error (.longRow 2 9 8) := by
  decide +kernel

end BalancerImport
