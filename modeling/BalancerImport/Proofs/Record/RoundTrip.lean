import BalancerImport.Record.Sheet
import BalancerImport.Proofs.Json.Documents
import BalancerImport.Proofs.Record.Cells
import BalancerImport.Proofs.Record.Parts

/-!
# Records in documents

A record whose numbers fit their words is read back from its JSON form as it was written, without
what validation resolved.

* `Json.words?_words`, `Status.decodeMember?_encode`: values that are read back;
* `ListenerRecord.plain_encode`, `BackendRecord.plain_encode`: so are the texts of JSON forms;
* `Storable`: a kind of record with such a form; both kinds are;
* `Unresolved`: a record for which nothing is resolved; what is read is such, from documents
  (`decodeAll?_unresolved`) and from sheets (`Sheet.readRows_unresolved`);
* **`decodeAll?_encodeAll`**: whole documents are read back.
-/

namespace BalancerImport

open Importable Separable

/-! ## Values -/

namespace Json

variable {α : Type}

theorem mem_of_allSome {decode : Json → Option α} : ∀ {js : List Json} {as : List α},
    allSome decode js = some as → ∀ a ∈ as, ∃ j ∈ js, decode j = some a
  | [], _, h => by
    obtain rfl := Option.some.inj h
    simp
  | j :: js, _, h => by
    unfold allSome at h
    split at h
    · exact nomatch h
    · rename_i a ha
      obtain ⟨rest, hrest, rfl⟩ := Option.map_eq_some_iff.mp h
      refine List.forall_mem_cons.mpr ⟨⟨j, List.mem_cons_self, ha⟩, fun b hb => ?_⟩
      obtain ⟨j', hj', hb'⟩ := mem_of_allSome hrest b hb
      exact ⟨j', List.mem_cons_of_mem _ hj', hb'⟩

theorem words?_words {ns : List Nat} (h : ∀ n ∈ ns, n ≤ Text.maxWord32) :
    listOf? word32? (.arr (ns.map nat)) = some ns := by
  rw [listOf?, allSome_map (g := id) (fun n hn => ?_), List.map_id]
  have hle : (n : Int) ≤ Text.maxWord32 := Int.ofNat_le.mpr (h n hn)
  simp [word32?, nat?, nat, hle]

theorem words?_le {j : Json} {ns : List Nat} (h : listOf? word32? j = some ns) :
    ∀ n ∈ ns, n ≤ Text.maxWord32 := by
  intro n hn
  cases j with
  | arr items =>
    obtain ⟨j, -, hj⟩ := mem_of_allSome h n hn
    unfold word32? nat? at hj
    split at hj
    · split at hj
      · rename_i hle
        obtain rfl := Option.some.inj hj
        omega
      · exact nomatch hj
    · exact nomatch hj
  | _ => exact nomatch h

theorem plain_words {ns : List Nat} (h : ∀ n ∈ ns, n ≤ Text.maxWord32) :
    Plain 1 (.arr (ns.map nat)) := by
  refine .arr fun j hj => ?_
  obtain ⟨n, hn, rfl⟩ := List.mem_map.mp hj
  have hle : n ≤ Text.maxWord64 := (h n hn).trans (by decide)
  have hlow : -((Text.maxInt64 : Int) + 1) ≤ n := by omega
  exact .int ⟨hlow, Int.ofNat_le.mpr hle⟩

theorem weight?_weight {weight : Option Int} (h : ∀ w ∈ weight, FitsInt64 w) :
    optional? int64? ((weight.map int).getD .null) = some weight := by
  cases weight with
  | none => rfl
  | some w =>
    have hw : -(Text.maxInt64 : Int) - 1 ≤ w ∧ w ≤ Text.maxInt64 := h w rfl
    simp [optional?, int64?, int, hw]

theorem weight?_fits {j : Json} {weight : Option Int} (h : optional? int64? j = some weight) :
    ∀ w ∈ weight, FitsInt64 w := by
  have hsome : ∀ {j : Json}, (int64? j).map some = some weight → ∀ w ∈ weight, FitsInt64 w := by
    rintro j hj w hw
    obtain ⟨n, hn, rfl⟩ := Option.map_eq_some_iff.mp hj
    obtain rfl := Option.some.inj hw
    unfold int64? at hn
    split at hn
    · split at hn
      · rename_i hfits
        obtain rfl := Option.some.inj hn
        exact hfits
      · exact nomatch hn
    · exact nomatch hn
  unfold optional? at h
  split at h
  · obtain rfl := Option.some.inj h
    simp
  · exact hsome h

theorem plain_weight {d : Nat} {weight : Option Int} (h : ∀ w ∈ weight, FitsInt64 w) :
    Plain d ((weight.map int).getD .null) := by
  cases weight with
  | none => exact .null
  | some w =>
    obtain ⟨hlow, hhigh⟩ := h w rfl
    have hword : (Text.maxInt64 : Int) ≤ Text.maxWord64 := by decide
    exact .int ⟨by omega, by omega⟩

end Json

theorem Status.decodeMember?_encode (s : Status) :
    Status.decodeMember? (Named.encode s) = some s := by
  cases s <;> decide

/-- A state as it is read from the members that it was written to. -/
def RecordState.readBack (s : RecordState) : Option RecordState := do
  let status ← Status.decodeMember? (Named.encode s.status)
  let messages ← Json.strs? (.strs s.messages)
  return { status, messages }

theorem RecordState.readBack_eq (s : RecordState) : s.readBack = some s := by
  rw [readBack, Status.decodeMember?_encode, Json.strs?_strs]
  rfl

theorem RecordState.plain_encodeMembers (s : RecordState) :
    ∀ m ∈ s.encodeMembers, Json.Plain 1 m.2 := by
  simp only [encodeMembers, List.forall_mem_cons]
  exact ⟨.str _, Json.plain_strs _, nofun⟩

/-! ## Records -/

/-- What holds of whatever a decoder goes on to holds of what it returns. -/
theorem of_bind {α β : Type} {P : β → Prop} {o : Option α} {f : α → Option β}
    (h : ∀ a, o = some a → ∀ b, f a = some b → P b) : ∀ b, o >>= f = some b → P b := by
  intro b hb
  obtain ⟨a, ha, hb⟩ := Option.bind_eq_some_iff.mp hb
  exact h a ha b hb

section

variable {R : Type} [Importable R] [Separable R]

/-- A record for which nothing is resolved: without its state it is what it asks for. -/
def Unresolved (r : R) : Prop := withState .initial r = bare r

end

/-- A kind of record with a JSON form from which it is read back. -/
class Storable (R : Type) [Importable R] [Separable R] where
  /-- The numbers of a record fit their words. -/
  Sized : R → Prop
  sized_bare (r : R) : Sized (bare r) ↔ Sized r
  sized_canonical (r : R) : Sized (canonical r) ↔ Sized r
  decode?_encode (r : R) : Sized r → decode? (encode r) = some (withState (state r) (bare r))
  decode?_unresolved (j : Json) (r : R) : decode? j = some r → Sized r ∧ Unresolved r
  blank_unresolved : Sized (blank : R) ∧ Unresolved (blank : R)
  read_unresolved (column : Column R) (cell : String) (r r' : R) : column ∈ columns →
    column.read cell r = .ok r' → Sized r ∧ Unresolved r → Sized r' ∧ Unresolved r'

namespace ListenerRecord

/-- The numbers of a record fit their words. -/
def Sized (r : ListenerRecord) : Prop := ∀ p ∈ r.ports, p ≤ Text.maxWord32

theorem decode?_encode (r : ListenerRecord) (h : r.Sized) :
    decode? r.encode = some { r with lbId := none } := by
  -- the members are found, and the texts among them read, by evaluation
  change (do
    let ports ← Json.listOf? Json.word32? (.arr (r.ports.map Json.nat))
    let certificates ← Json.strs? (.strs r.certificates)
    let state ← r.state.readBack
    return { r with ports, certificates, state, lbId := none }) = _
  rw [Json.words?_words h, Json.strs?_strs, RecordState.readBack_eq]
  rfl

theorem plain_encode {r : ListenerRecord} (h : r.Sized) : Json.Plain 2 r.encode := by
  refine .obj (List.forall_mem_append.mpr ⟨?_, r.state.plain_encodeMembers⟩)
  simp only [List.forall_mem_cons]
  exact ⟨.str _, .str _, .str _, Json.plain_words h, .str _, Json.plain_strs _, .str _, .str _,
    nofun⟩

theorem decode?_unresolved {j : Json} :
    ∀ r : ListenerRecord, decode? j = some r → r.Sized ∧ Unresolved r := by
  unfold decode?
  refine of_bind fun m _ => of_bind fun vip _ => of_bind fun balancer _ => of_bind fun protocol _ =>
    of_bind fun ports hports => of_bind fun sslMode _ => of_bind fun certificates _ =>
    of_bind fun ca _ => of_bind fun remark _ => of_bind fun state _ r hr => ?_
  obtain rfl := Option.some.inj hr
  obtain ⟨j, -, hports⟩ := Option.bind_eq_some_iff.mp hports
  exact ⟨Json.words?_le hports, rfl⟩

theorem unresolved_iff {r : ListenerRecord} : Unresolved r ↔ r.lbId = none :=
  ⟨fun h => congrArg lbId h, fun h => by simp only [Unresolved, withState, bare, h]⟩

theorem read_unresolved {column : Column ListenerRecord} {cell : String} {r r' : ListenerRecord}
    (hcolumn : column ∈ columns) (hread : column.read cell r = .ok r')
    (h : r.Sized ∧ Unresolved r) : r'.Sized ∧ Unresolved r' := by
  rw [unresolved_iff] at h ⊢
  simp only [columns, List.mem_cons, List.not_mem_nil, or_false] at hcolumn
  rcases hcolumn with rfl | rfl | rfl | rfl | rfl | rfl | rfl | rfl
  case inr.inr.inr.inl =>
    obtain ⟨ports, hports, rfl⟩ := map_ok hread
    exact ⟨Cell.parsePorts_le hports, h.2⟩
  all_goals
    obtain rfl := Except.ok.inj hread
    exact h

instance : Storable ListenerRecord where
  Sized := Sized
  sized_bare _ := Iff.rfl
  sized_canonical _ := by simp only [Sized, Importable.canonical, canonical]
  decode?_encode := decode?_encode
  decode?_unresolved _ := decode?_unresolved
  blank_unresolved := ⟨by simp [Sized, blank, Importable.blank], rfl⟩
  read_unresolved _ _ _ _ := read_unresolved

end ListenerRecord

namespace BackendRecord

/-- The numbers of a record fit their words. -/
structure Sized (r : BackendRecord) : Prop where
  ports : ∀ p ∈ r.ports, p ≤ Text.maxWord32
  backendPorts : ∀ p ∈ r.backendPorts, p ≤ Text.maxWord32
  weight : ∀ w ∈ r.weight, FitsInt64 w

theorem decode?_encode (r : BackendRecord) (h : r.Sized) :
    decode? r.encode = some { r with lbId := none, targetGroup := none, inst := none } := by
  change (do
    let ports ← Json.listOf? Json.word32? (.arr (r.ports.map Json.nat))
    let backendPorts ← Json.listOf? Json.word32? (.arr (r.backendPorts.map Json.nat))
    let weight ← Json.optional? Json.int64? ((r.weight.map Json.int).getD .null)
    let state ← r.state.readBack
    return { r with
      ports, backendPorts, weight, state, lbId := none, targetGroup := none, inst := none }) = _
  rw [Json.words?_words h.ports, Json.words?_words h.backendPorts, Json.weight?_weight h.weight,
    RecordState.readBack_eq]
  rfl

theorem plain_encode {r : BackendRecord} (h : r.Sized) : Json.Plain 2 r.encode := by
  refine .obj (List.forall_mem_append.mpr ⟨?_, r.state.plain_encodeMembers⟩)
  simp only [List.forall_mem_cons]
  exact ⟨.str _, .str _, .str _, Json.plain_words h.ports, .str _, .str _, .str _, .str _,
    Json.plain_words h.backendPorts, Json.plain_weight h.weight, .str _, .str _, nofun⟩

theorem decode?_unresolved {j : Json} :
    ∀ r : BackendRecord, decode? j = some r → r.Sized ∧ Unresolved r := by
  unfold decode?
  refine of_bind fun m _ => of_bind fun vip _ => of_bind fun balancer _ => of_bind fun protocol _ =>
    of_bind fun ports hports => of_bind fun domain _ => of_bind fun path _ => of_bind fun kind _ =>
    of_bind fun ip _ => of_bind fun backendPorts hbackend => of_bind fun weight hweight =>
    of_bind fun remark _ => of_bind fun backendRemark _ => of_bind fun state _ r hr => ?_
  obtain rfl := Option.some.inj hr
  obtain ⟨_, -, hports⟩ := Option.bind_eq_some_iff.mp hports
  obtain ⟨_, -, hbackend⟩ := Option.bind_eq_some_iff.mp hbackend
  refine ⟨⟨Json.words?_le hports, Json.words?_le hbackend, ?_⟩, rfl⟩
  unfold Json.fieldOr? at hweight
  split at hweight
  · obtain rfl := Option.some.inj hweight
    simp
  · exact Json.weight?_fits hweight

theorem unresolved_iff {r : BackendRecord} :
    Unresolved r ↔ r.lbId = none ∧ r.targetGroup = none ∧ r.inst = none :=
  ⟨fun h => ⟨congrArg lbId h, congrArg targetGroup h, congrArg inst h⟩,
    fun ⟨hlb, hgroup, hinst⟩ => by simp only [Unresolved, withState, bare, hlb, hgroup, hinst]⟩

theorem read_unresolved {column : Column BackendRecord} {cell : String} {r r' : BackendRecord}
    (hcolumn : column ∈ columns) (hread : column.read cell r = .ok r')
    (h : r.Sized ∧ Unresolved r) : r'.Sized ∧ Unresolved r' := by
  rw [unresolved_iff] at h ⊢
  simp only [columns, List.mem_cons, List.not_mem_nil, or_false] at hcolumn
  rcases hcolumn with rfl | rfl | rfl | rfl | rfl | rfl | rfl | rfl | rfl | rfl | rfl | rfl
  case inr.inr.inr.inl =>
    obtain ⟨ports, hports, rfl⟩ := map_ok hread
    exact ⟨⟨Cell.parsePorts_le hports, h.1.backendPorts, h.1.weight⟩, h.2⟩
  case inr.inr.inr.inr.inr.inr.inr.inr.inl =>
    obtain ⟨ports, hports, rfl⟩ := map_ok hread
    exact ⟨⟨h.1.ports, Cell.parsePorts_le hports, h.1.weight⟩, h.2⟩
  case inr.inr.inr.inr.inr.inr.inr.inr.inr.inl =>
    obtain ⟨weight, hweight, rfl⟩ := map_ok hread
    exact ⟨⟨h.1.ports, h.1.backendPorts, Cell.parseWeight_fits hweight⟩, h.2⟩
  all_goals
    obtain rfl := Except.ok.inj hread
    exact ⟨⟨h.1.ports, h.1.backendPorts, h.1.weight⟩, h.2⟩

instance : Storable BackendRecord where
  Sized := Sized
  sized_bare _ := ⟨fun h => ⟨h.1, h.2, h.3⟩, fun h => ⟨h.1, h.2, h.3⟩⟩
  sized_canonical r := by
    simp only [Importable.canonical, canonical]
    exact ⟨fun h => ⟨h.1, h.2, h.3⟩, fun h => ⟨h.1, h.2, h.3⟩⟩
  decode?_encode := decode?_encode
  decode?_unresolved _ := decode?_unresolved
  blank_unresolved := ⟨by constructor <;> simp [blank, Importable.blank], rfl⟩
  read_unresolved _ _ _ _ := read_unresolved

end BackendRecord

/-! ## Batches -/

variable {R : Type} [Importable R] [Separable R] [Storable R]

open Storable

/-- **Records whose numbers fit their words are read back**, without what was resolved for them. -/
theorem decodeAll?_encodeAll {rs : List R} (h : ∀ r ∈ rs, Sized r) :
    decodeAll? (encodeAll rs) = some (rs.map fun r => withState (state r) (bare r)) :=
  Json.allSome_map fun r hr => decode?_encode r (h r hr)

/-- What is read from a document fits, and nothing is resolved for it. -/
theorem decodeAll?_unresolved {j : Json} {rs : List R} (h : decodeAll? j = some rs) :
    ∀ r ∈ rs, Sized r ∧ Unresolved r := by
  intro r hr
  cases j with
  | arr items =>
    obtain ⟨j, -, hj⟩ := Json.mem_of_allSome h r hr
    exact decode?_unresolved j r hj
  | _ => exact nomatch h

namespace Sheet

theorem readCells_unresolved {line : Nat} : ∀ {columns : List (Column R)} {cells : List String}
    {r r' : R}, (∀ column ∈ columns, column ∈ Importable.columns) →
    readCells line columns cells r = .ok r' → Sized r ∧ Unresolved r → Sized r' ∧ Unresolved r'
  | column :: columns, cell :: cells, r, r', hcolumns, h, hr => by
    obtain ⟨hcolumn, hrest⟩ := List.forall_mem_cons.mp hcolumns
    unfold readCells at h
    split at h
    · exact nomatch h
    · rename_i r₁ hread
      exact readCells_unresolved hrest h (read_unresolved column _ r r₁ hcolumn hread hr)
  | [], _, _, _, _, h, hr => by
    simp only [readCells] at h
    obtain rfl := Except.ok.inj h
    exact hr
  | _ :: _, [], _, _, _, h, hr => by
    simp only [readCells] at h
    obtain rfl := Except.ok.inj h
    exact hr

theorem readRowsFrom_unresolved : ∀ {line : Nat} {rows : List (List String)} {rs : List R},
    readRowsFrom columns blank line rows = .ok rs → ∀ r ∈ rs, Sized r ∧ Unresolved r
  | _, [], _, h => by
    obtain rfl := Except.ok.inj h
    simp
  | line, row :: rows, _, h => by
    unfold readRowsFrom at h
    split at h
    · exact nomatch h
    · rename_i r hr
      obtain ⟨rest, hrest, rfl⟩ := map_ok h
      refine List.forall_mem_cons.mpr ⟨?_, readRowsFrom_unresolved hrest⟩
      unfold readRow at hr
      split at hr
      · exact nomatch hr
      · exact readCells_unresolved (fun _ => id) hr blank_unresolved

/-- The same holds of what is read from a sheet. -/
theorem readRows_unresolved {rows : List (List String)} {rs : List R}
    (h : readRows rows = .ok rs) : ∀ r ∈ rs, Sized r ∧ Unresolved r :=
  readRowsFrom_unresolved h

end Sheet

end BalancerImport
