import BalancerImport.Proofs.Check.Length
import BalancerImport.Proofs.Record.Parts
import BalancerImport.Proofs.Text.Joined

/-!
# Duplicates of a batch

What the pass over a batch amounts to: each record is told, in the order of their lines, of all
others that have its key.

* `twins`: the other indices at which the key of an index occurs;
* `seenAt_zipIdx`, `getElem?_markPairs`: what is seen, and what one record makes of those before it;
* **`getElem?_markDuplicates`**: what a batch becomes, record by record;
* `Twin`: two records that share their key; `Marked`: a record that is told of such others, and
  nothing else; **`markDuplicates_marked`**: all records are;
* `Tells`, `tells_iff`: the pass seen from two records.
-/

namespace BalancerImport

/-- The other indices at which the key of an index occurs. -/
def twins (keys : List String) (i : Nat) : List Nat :=
  (List.range keys.length).filter fun j => j ≠ i ∧ keys[j]? = keys[i]?

theorem mem_twins {keys : List String} {i j : Nat} :
    j ∈ twins keys i ↔ j < keys.length ∧ j ≠ i ∧ keys[j]? = keys[i]? := by
  simp [twins]

/-- The indices at which a key was seen, if all keys of a list were. -/
theorem seenAt_zipIdx (key : String) (keys : List String) :
    seenAt key keys.zipIdx = (List.range keys.length).filter fun j => keys[j]? = some key := by
  induction keys using List.reverseRecOn with
  | nil => rfl
  | append_singleton keys last ih =>
    have hbefore : (List.range keys.length).filter (fun j => (keys ++ [last])[j]? = some key) =
        (List.range keys.length).filter fun j => keys[j]? = some key := by
      refine List.filter_congr fun j hj => ?_
      rw [List.getElem?_append_left (List.mem_range.mp hj)]
    unfold seenAt at ih ⊢
    rw [List.zipIdx_append, List.filterMap_append, ih, List.length_append, List.length_singleton,
      List.range_succ, List.filter_append, hbefore]
    by_cases h : last = key <;> simp [h]

variable {R : Type} [Importable R] [Separable R]

open Importable Separable

/-! ## One step -/

/-- What the record at an index is told when two records are compared. -/
def told (later i earlier : Nat) : List String :=
  if i = later then [duplicateMessage earlier]
  else if i = earlier then [duplicateMessage later] else []

theorem getElem?_markPair {earlier later : Nat} (hne : earlier ≠ later) (rs : List R) (i : Nat) :
    (markPair earlier later rs)[i]? =
      rs[i]?.map (mapState (RecordState.rejectAll (told later i earlier))) := by
  unfold markPair told
  rw [List.getElem?_modify, List.getElem?_modify]
  by_cases hlater : i = later
  · subst hlater
    simp only [hne, if_true, if_false, Option.map_eq_map, Option.map_map]
    rfl
  · simp only [hlater, Ne.symm hlater, if_false, Option.map_eq_map, Option.map_id_fun', id_eq]
    by_cases hearlier : i = earlier
    · simp only [hearlier, if_true]
      rfl
    · simp only [hearlier, Ne.symm hearlier, if_false, mapState_rejectAll_nil, Option.map_id_fun',
        Option.map_id_fun, id_eq]

theorem getElem?_markPairs {later : Nat} : ∀ {earlier : List Nat}, later ∉ earlier →
    ∀ (rs : List R) (i : Nat), (earlier.foldl (fun rs e => markPair e later rs) rs)[i]? =
      rs[i]?.map (mapState (RecordState.rejectAll (earlier.flatMap (told later i))))
  | [], _, rs, i => by
      simp
  | e :: earlier, hlater, rs, i => by
    obtain ⟨he, hrest⟩ := not_or.mp (mt List.mem_cons.mpr hlater)
    rw [List.foldl_cons, getElem?_markPairs hrest, getElem?_markPair (Ne.symm he), Option.map_map,
      List.flatMap_cons]
    exact congrArg (rs[i]?.map ·) (funext fun r => (mapState_rejectAll_append _ _ r).symm)

/-! ## The whole pass -/

omit [Separable R] in
/-- A pass over some keys and then others. -/
theorem markFrom_append : ∀ (index : Nat) (keys more : List String) (seen : List (String × Nat))
    (rs : List R), markFrom index (keys ++ more) seen rs =
      markFrom (index + keys.length) more (seen ++ keys.zipIdx index)
        (markFrom index keys seen rs)
  | index, [], more, seen, rs => by simp [markFrom]
  | index, key :: keys, more, seen, rs => by
    rw [List.cons_append, markFrom, markFrom, markFrom_append, List.zipIdx_cons, List.length_cons,
      List.append_assoc, Nat.add_right_comm, Nat.add_assoc]
    rfl

/-- What a record is told up to a line: of the twins above that line, once it is reached itself. -/
def toldBefore (keys : List String) (n i : Nat) : List String :=
  if i < n then
    ((List.range n).filter fun j => j ≠ i ∧ keys[j]? = keys[i]?).map duplicateMessage
  else []

theorem flatMap_told {n : Nat} {earlier : List Nat} (hnodup : earlier.Nodup) {i : Nat}
    (hi : i ≠ n) : earlier.flatMap (told n i) = if i ∈ earlier then [duplicateMessage n] else [] := by
  induction earlier with
  | nil => rfl
  | cons e earlier ih =>
    obtain ⟨he, hrest⟩ := List.nodup_cons.mp hnodup
    rw [List.flatMap_cons, ih hrest, told, if_neg hi]
    by_cases hie : i = e
    · rw [if_pos hie, hie, if_neg he, if_pos List.mem_cons_self, List.append_nil]
    · simp [hie]

/-- **What the next line adds to what a record was told.** -/
theorem toldBefore_succ {keys : List String} {n : Nat} {key : String} (hkey : keys[n]? = some key)
    (i : Nat) : toldBefore keys (n + 1) i = toldBefore keys n i ++
      ((List.range n).filter fun j => keys[j]? = some key).flatMap (told n i) := by
  unfold toldBefore
  by_cases hin : i = n
  · -- the record of the line itself is told of all twins above it
    subst hin
    have htold : told i i = fun e => [duplicateMessage e] := funext fun e => if_pos rfl
    have hothers : (List.range i).filter (fun j => j ≠ i ∧ keys[j]? = some key) =
        (List.range i).filter fun j => keys[j]? = some key := by
      refine List.filter_congr fun j hj => ?_
      simp [(List.mem_range.mp hj).ne]
    rw [if_pos (Nat.lt_succ_self i), if_neg (Nat.lt_irrefl i), htold, List.range_succ,
      List.filter_append, hkey, hothers, List.nil_append, List.map_append, List.map_eq_flatMap]
    simp
  · rw [flatMap_told (List.nodup_range.filter _) hin]
    by_cases hlt : i < n
    · rw [if_pos (by omega), if_pos hlt, List.range_succ, List.filter_append, List.map_append]
      have hsymm : some key = keys[i]? ↔ keys[i]? = some key := eq_comm
      congr 1
      by_cases htwin : keys[i]? = some key <;> simp [hkey, hlt, Ne.symm hin, hsymm, htwin]
    · have hnot : i ∉ (List.range n).filter fun j => keys[j]? = some key := by simp [hlt]
      rw [if_neg (by omega), if_neg hlt, if_neg hnot, List.append_nil]

theorem getElem?_markFrom_take (keys : List String) (rs : List R) (n : Nat) (hn : n ≤ keys.length)
    (i : Nat) : (markFrom 0 (keys.take n) [] rs)[i]? =
      rs[i]?.map (mapState (RecordState.rejectAll (toldBefore keys n i))) := by
  induction n generalizing i with
  | zero =>
      simp [markFrom, toldBefore]
  | succ n ih =>
    have hkey : keys[n]? = some keys[n] := List.getElem?_eq_getElem hn
    have hlength : (keys.take n).length = n := List.length_take_of_le (Nat.le_of_succ_le hn)
    have hseen : (List.range n).filter (fun j => (keys.take n)[j]? = some keys[n]) =
        (List.range n).filter fun j => keys[j]? = some keys[n] := by
      refine List.filter_congr fun j hj => ?_
      rw [List.getElem?_take_of_lt (List.mem_range.mp hj)]
    have hlater : n ∉ (List.range n).filter fun j => keys[j]? = some keys[n] := by simp
    rw [List.take_succ_eq_append_getElem hn, markFrom_append, markFrom, markFrom, List.nil_append,
      hlength, Nat.zero_add, seenAt_zipIdx, hlength, hseen, getElem?_markPairs hlater,
      ih (Nat.le_of_succ_le hn), Option.map_map, toldBefore_succ hkey]
    exact congrArg (rs[i]?.map ·) (funext fun r => (mapState_rejectAll_append _ _ r).symm)

/-- **Each record of a batch is told of all others that have its key.** -/
theorem getElem?_markDuplicates (rs : List R) (i : Nat) : (markDuplicates rs)[i]? =
    rs[i]?.map (mapState
      (RecordState.rejectAll ((twins (rs.map dedupKey) i).map duplicateMessage))) := by
  have hall := getElem?_markFrom_take (rs.map dedupKey) rs _ (Nat.le_refl _) i
  rw [List.take_length] at hall
  rw [markDuplicates, hall]
  cases hi : rs[i]? with
  | none => rfl
  | some r =>
    have hlt : i < (rs.map dedupKey).length := by
      rw [List.length_map]
      exact (List.getElem?_eq_some_iff.mp hi).1
    rw [toldBefore, if_pos hlt, twins]

/-! ## Which records are told of which -/

/-- The records at two indices share their key. -/
def Twin (rs : List R) (i k : Nat) : Prop :=
  k ≠ i ∧ ∃ r s, rs[i]? = some r ∧ rs[k]? = some s ∧ dedupKey s = dedupKey r

/-- What becomes of a record of a batch: it is told once of each other one that has its key, in the
order of their lines, it is ruled out if there is one, and nothing else about it changes. -/
structure Marked (rs : List R) (i : Nat) (r v : R) : Prop where
  messages : ∃ others : List Nat, others.Pairwise (· < ·) ∧ (∀ k, k ∈ others ↔ Twin rs i k) ∧
    (state v).messages =
      (state r).messages ++ others.map fun k => s!"duplicado con la línea {k + 1}"
  ruledOut : (∃ k, Twin rs i k) → (state v).status = .notExecutable
  untouched : (∀ k, ¬ Twin rs i k) → v = r
  rest : withState (state r) v = r

omit [Separable R] in
theorem mem_twins_map {rs : List R} {i k : Nat} {r : R} (hr : rs[i]? = some r) :
    k ∈ twins (rs.map dedupKey) i ↔ Twin rs i k := by
  rw [mem_twins, List.getElem?_map, List.getElem?_map, hr, List.length_map, Option.map_some]
  constructor
  · rintro ⟨-, hne, hkey⟩
    obtain ⟨s, hs, hkey⟩ := Option.map_eq_some_iff.mp hkey
    exact ⟨hne, r, s, hr, hs, hkey⟩
  · rintro ⟨hne, r', s, hr', hs, hkey⟩
    obtain rfl := Option.some.inj (hr.symm.trans hr')
    exact ⟨(List.getElem?_eq_some_iff.mp hs).1, hne, by rw [hs, Option.map_some, hkey]⟩

/-- **A batch keeps its records, and each one is told of the others that have its key.** -/
theorem markDuplicates_marked (rs : List R) : (markDuplicates rs).length = rs.length ∧
    ∀ i r v, rs[i]? = some r → (markDuplicates rs)[i]? = some v → Marked rs i r v := by
  refine ⟨length_markDuplicates rs, fun i r v hr hv => ?_⟩
  rw [getElem?_markDuplicates, hr, Option.map_some] at hv
  obtain rfl := Option.some.inj hv
  have hmem : ∀ k, k ∈ twins (rs.map dedupKey) i ↔ Twin rs i k := fun k => mem_twins_map hr
  constructor
  case messages =>
    refine ⟨_, List.pairwise_lt_range.filter _, hmem, ?_⟩
    rw [state_mapState, RecordState.messages_rejectAll]
    rfl
  case ruledOut =>
    rintro ⟨k, hk⟩
    have hne : (twins (rs.map dedupKey) i).map duplicateMessage ≠ [] :=
      List.ne_nil_of_mem (List.mem_map_of_mem ((hmem k).mpr hk))
    rw [state_mapState, RecordState.status_rejectAll, if_neg hne]
  case untouched =>
    intro hnone
    have hnil : twins (rs.map dedupKey) i = [] :=
      List.eq_nil_iff_forall_not_mem.mpr fun k hk => hnone k ((hmem k).mp hk)
    rw [hnil, List.map_nil, mapState_rejectAll_nil, id_eq]
  case rest => rw [mapState, withState_withState, withState_state]

/-- Three listeners on one port, of which the first one has a message already, and another one
between them. -/
def repeatedListeners : List ListenerRecord :=
  let r := { ListenerRecord.blank with balancer := "clb-1", protocol := "HTTP", ports := [80] }
  [{ r with state := ⟨.existing, ["a"]⟩ }, { r with ports := [81] }, r, { r with remark := "b" }]

/-- The three are told of each other. -/
theorem markDuplicates_marked_repeated :
    ((markDuplicates repeatedListeners).map fun v => v.state) =
      [⟨.notExecutable, ["a", "duplicado con la línea 3", "duplicado con la línea 4"]⟩, .initial,
        ⟨.notExecutable, ["duplicado con la línea 1", "duplicado con la línea 4"]⟩,
        ⟨.notExecutable, ["duplicado con la línea 1", "duplicado con la línea 3"]⟩] ∧
    ∀ i r v, repeatedListeners[i]? = some r → (markDuplicates repeatedListeners)[i]? = some v →
      Marked repeatedListeners i r v :=
  ⟨by decide +kernel, (markDuplicates_marked repeatedListeners).2⟩

/-- A message names one line. -/
theorem duplicateMessage_inj {j k : Nat} (h : duplicateMessage j = duplicateMessage k) : j = k := by
  have hdigits : toString (j + 1) = toString (k + 1) := (String.append_right_inj _).mp h
  exact Nat.succ.inj (eq_of_toString_eq hdigits)

/-- The pass tells the record at an index of the one at another index. -/
def Tells (rs : List R) (i k : Nat) : Prop :=
  ∃ r v told, rs[i]? = some r ∧ (markDuplicates rs)[i]? = some v ∧
    (state v).messages = (state r).messages ++ told ∧ duplicateMessage k ∈ told

/-- **Those are told of each other that share their key.** -/
theorem tells_iff {rs : List R} {i k : Nat} : Tells rs i k ↔ Twin rs i k := by
  constructor
  · rintro ⟨r, v, told, hr, hv, hmessages, hk⟩
    rw [getElem?_markDuplicates, hr, Option.map_some] at hv
    obtain rfl := Option.some.inj hv
    rw [state_mapState, RecordState.messages_rejectAll, List.append_cancel_left_eq] at hmessages
    obtain ⟨k', hk', he⟩ := List.mem_map.mp (hmessages ▸ hk)
    obtain rfl := duplicateMessage_inj he
    exact (mem_twins_map hr).mp hk'
  · intro htwin
    obtain ⟨-, r, -, hr, -⟩ := id htwin
    refine ⟨r, _, _, hr, by rw [getElem?_markDuplicates, hr, Option.map_some], ?_,
      List.mem_map_of_mem ((mem_twins_map hr).mpr htwin)⟩
    rw [state_mapState, RecordState.messages_rejectAll]

end BalancerImport
