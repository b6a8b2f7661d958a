import BalancerImport.Proofs.Flow.Lines
import BalancerImport.Proofs.Plan.Numbering

/-!
# Groups that are batched in turn

Groups of items are batched one after the other with one source of action ids. The tasks of all
groups then stand in one line, and the first batch without parameters ends the run.

* `Batched`: the batches of items, said without how they are cut; `batched_cut`;
* `FailsFirst`: the first batch that has no parameters; `chainFrom_error`, `chainBatches_error`;
* `chainInTurn`: the tasks of groups in turn; `chainInTurn_ok`, `chainInTurn_error`,
  `chainInTurn_total`: what a run over groups answers;
* `NumberedFrom`: tasks in a line that are numbered without gaps; `numberedFrom_of_draws`;
* **`chainInTurn_batched`**: either there is one chain of bounded batches, or the first batch without
  parameters is the fault.
-/

namespace BalancerImport

variable {α κ : Type}

/-! ## Batches -/

/-- Batches of items in order, none of them empty, and all but the last as large as they may be. -/
structure Batched (limit : Nat) (items : List α) (batches : List (List α)) : Prop where
  flatten : batches.flatten = items
  ne_nil : ∀ batch ∈ batches, batch ≠ []
  length_le : ∀ batch ∈ batches, batch.length ≤ limit
  full : ∀ batch ∈ batches.dropLast, batch.length = limit

theorem batched_nil (limit : Nat) : Batched limit ([] : List α) [] := ⟨rfl, nofun, nofun, nofun⟩

/-- A batch before others is full if there are others. -/
theorem Batched.cons {limit : Nat} {items batch : List α} {batches : List (List α)}
    (h : Batched limit items batches) (hne : batch ≠ []) (hle : batch.length ≤ limit)
    (hfull : items ≠ [] → batch.length = limit) :
    Batched limit (batch ++ items) (batch :: batches) where
  flatten := by rw [List.flatten_cons, h.flatten]
  ne_nil := List.forall_mem_cons.mpr ⟨hne, h.ne_nil⟩
  length_le := List.forall_mem_cons.mpr ⟨hle, h.length_le⟩
  full := by
    cases batches with
    | nil => simp
    | cons next rest =>
      rw [List.dropLast_cons_of_ne_nil (List.cons_ne_nil next rest), List.forall_mem_cons]
      refine ⟨hfull fun hnil => ?_, h.full⟩
      have hempty : next = [] := (List.append_eq_nil_iff.mp (h.flatten.trans hnil)).1
      exact h.ne_nil next List.mem_cons_self hempty

theorem batched_cut (size : Nat) : ∀ items : List α, Batched (size + 1) items (cut size items)
  | [] => by
    rw [cut]
    exact batched_nil _
  | x :: xs => by
    have hrest := batched_cut size (xs.drop size)
    have hcons := hrest.cons (List.cons_ne_nil x (xs.take size)) (by simp) fun hne => by
      rw [ne_eq, List.drop_eq_nil_iff, Nat.not_le] at hne
      rw [List.length_cons, List.length_take, Nat.min_eq_left (Nat.le_of_lt hne)]
    rw [cut]
    rwa [List.cons_append, List.take_append_drop] at hcons
termination_by items => items.length
decreasing_by simp only [List.length_drop, List.length_cons]; omega

/-! ## The first batch without parameters -/

/-- The first of some batches that has no parameters, and why. -/
def FailsFirst (params : α → Except PlanError Json) (batches : List α) (e : PlanError) : Prop :=
  ∃ before batch after, batches = before ++ batch :: after ∧
    (∀ b ∈ before, ∃ json, params b = .ok json) ∧ params batch = .error e

/-- Batches that have parameters may stand before. -/
theorem FailsFirst.prepend {params : α → Except PlanError Json} {batches before : List α}
    {e : PlanError} (h : FailsFirst params batches e)
    (hbefore : ∀ b ∈ before, ∃ json, params b = .ok json) :
    FailsFirst params (before ++ batches) e := by
  obtain ⟨others, batch, after, rfl, hothers, he⟩ := h
  exact ⟨before ++ others, batch, after, (List.append_assoc ..).symm,
    List.forall_mem_append.mpr ⟨hbefore, hothers⟩, he⟩

section

variable {action : String} {limit : Nat} {retry : RetryPolicy}
  {params : List α → Except PlanError Json} {e : PlanError}

theorem chainFrom_error {batches : List (List α)} {ids : ActionIds}
    (h : (chainFrom action retry params ids batches).1 = .error e) : FailsFirst params batches e := by
  induction batches generalizing ids with
  | nil => exact nomatch h
  | cons batch batches ih =>
    cases hparams : params batch with
    | error cause =>
      simp only [chainFrom, hparams] at h
      obtain rfl := Except.error.inj h
      exact ⟨[], batch, batches, rfl, List.forall_mem_nil _, hparams⟩
    | ok json =>
      simp only [chainFrom, hparams] at h
      exact (ih (map_error h)).prepend (List.forall_mem_singleton.mpr ⟨json, hparams⟩)

theorem chainBatches_error {items : List α} {ids : ActionIds} (hlimit : limit ≠ 0)
    (h : (chainBatches action limit retry params items ids).1 = .error e) :
    FailsFirst params (cut (limit - 1) items) e := by
  rw [chainBatches, if_neg hlimit] at h
  exact chainFrom_error h

end

/-! ## Groups in turn -/

section

/-- The tasks of groups in turn, with one source of action ids, up to the first group that has
none. -/
def chainInTurn (action : String) (limit : Nat) (retry : RetryPolicy)
    (params : κ → List α → Except PlanError Json) :
    ActionIds → List (κ × List α) → Except PlanError (List (List (Task × List α)))
  | _, [] => .ok []
  | ids, (key, items) :: rest =>
    match chainBatches action limit retry (params key) items ids with
    | (.error e, _) => .error e
    | (.ok chain, ids) => (chainInTurn action limit retry params ids rest).map (chain :: ·)

/-- The batches of groups in turn, each with the key of its group. -/
def keyedBatches (cuts : List (κ × List (List α))) : List (κ × List α) :=
  cuts.flatMap fun c => c.2.map (c.1, ·)

/-- The groups, each cut into batches. -/
def cutGroups (limit : Nat) (groups : List (κ × List α)) : List (κ × List (List α)) :=
  groups.map fun g => (g.1, cut (limit - 1) g.2)

variable {action : String} {limit : Nat} {retry : RetryPolicy}
  {params : κ → List α → Except PlanError Json} {e : PlanError}

/-- Each group has the tasks of its batches, and all of them take their ids in order. -/
theorem chainInTurn_ok : ∀ {groups : List (κ × List α)} {ids : ActionIds}
    {chains : List (List (Task × List α))},
    chainInTurn action limit retry params ids groups = .ok chains →
    List.Forall₂ (fun g chain => chain.map Prod.snd = cut (limit - 1) g.2 ∧
        ∀ b ∈ chain, TaskOf action retry (params g.1) b) groups chains ∧
      (chains.flatten.map fun b => b.1.link) = ids.draws chains.flatten.length
  | [], _, _, h => by
    obtain rfl := Except.ok.inj h
    exact ⟨.nil, rfl⟩
  | (key, items) :: rest, ids, chains, h => by
    unfold chainInTurn at h
    split at h
    · exact nomatch h
    · rename_i chain ids' hchain
      obtain ⟨more, hmore, rfl⟩ := map_ok h
      obtain ⟨hlinks, rfl⟩ := chainBatches_draws hchain
      obtain ⟨hgroups, hrest⟩ := chainInTurn_ok hmore
      refine ⟨.cons (chainBatches_cut (congrArg Prod.fst hchain)) hgroups, ?_⟩
      rw [List.flatten_cons, List.map_append, hlinks, hrest, List.length_append,
        ActionIds.draws_append]

/-- A run over groups fails with the first batch that has no parameters. -/
theorem chainInTurn_error (hlimit : limit ≠ 0) : ∀ {groups : List (κ × List α)} {ids : ActionIds},
    chainInTurn action limit retry params ids groups = .error e →
    FailsFirst (fun b => params b.1 b.2) (keyedBatches (cutGroups limit groups)) e
  | [], _, h => nomatch h
  | (key, items) :: rest, ids, h => by
    unfold chainInTurn at h
    split at h
    · rename_i cause _ hchain
      obtain rfl := Except.error.inj h
      obtain ⟨before, batch, after, hcut, hbefore, he⟩ :=
        chainBatches_error hlimit (congrArg Prod.fst hchain)
      refine ⟨before.map (key, ·), (key, batch), after.map (key, ·) ++
        keyedBatches (cutGroups limit rest), ?_, List.forall_mem_map.mpr hbefore, he⟩
      simp [keyedBatches, cutGroups, hcut]
    · rename_i chain _ hchain
      obtain ⟨hcut, htasks⟩ := chainBatches_cut (congrArg Prod.fst hchain)
      have hall : ∀ b ∈ (cut (limit - 1) items).map (key, ·),
          ∃ json, params b.1 b.2 = .ok json := by
        rw [← hcut, List.map_map, List.forall_mem_map]
        exact fun b hb => ⟨b.1.params, (htasks b hb).params⟩
      exact (chainInTurn_error hlimit (map_error h)).prepend hall

/-- Where each batch has parameters, there are tasks. -/
theorem chainInTurn_total (action : String) (retry : RetryPolicy) (hlimit : limit ≠ 0)
    (hparams : ∀ key batch, ∃ json, params key batch = .ok json) (groups : List (κ × List α))
    (ids : ActionIds) : ∃ chains, chainInTurn action limit retry params ids groups = .ok chains := by
  cases h : chainInTurn action limit retry params ids groups with
  | ok chains => exact ⟨chains, rfl⟩
  | error e =>
    obtain ⟨_, batch, _, -, -, he⟩ := chainInTurn_error hlimit h
    obtain ⟨json, hjson⟩ := hparams batch.1 batch.2
    exact nomatch he.symm.trans hjson

end

/-! ## Numbers -/

/-- Tasks in a line, numbered without gaps from a first number on. -/
structure NumberedFrom (first : Nat) (tasks : List Task) : Prop where
  ids : tasks.map Task.id = (List.range' first tasks.length).map fun n => toString n
  nodup : (tasks.map Task.id).Nodup
  line : IsLine tasks

theorem numberedFrom_of_draws {first : Nat} {tasks : List Task}
    (h : tasks.map Task.link = (ActionIds.startingAt first).draws tasks.length) :
    NumberedFrom first tasks := by
  have hids : tasks.map Task.id =
      ((ActionIds.startingAt first).draws tasks.length).map Prod.fst := by
    rw [← h, List.map_map]
    rfl
  refine ⟨hids.trans (ActionIds.map_fst_draws _ _), hids ▸ ActionIds.nodup_draws _ _, ?_⟩
  exact isLine_of_links (f := fun i => toString (first + i)) fun _ _ => link_of_draws h

/-- What a run over groups with keys may answer, if at most `limit` items go into a batch and the
actions are numbered from `first` on: the error of the first batch without parameters, or tasks for
the batches of each group, numbered through. -/
inductive BatchedInTurn (action : String) (limit : Nat) (retry : RetryPolicy)
    (params : κ → List α → Except PlanError Json) (first : Nat) (groups : List (κ × List α)) :
    Except PlanError (List (List (Task × List α))) → Prop where
  | failed {cuts : List (κ × List (List α))} {e : PlanError}
      (batched : List.Forall₂ (fun g c => c.1 = g.1 ∧ Batched limit g.2 c.2) groups cuts)
      (failure : FailsFirst (fun b => params b.1 b.2) (keyedBatches cuts) e) :
      BatchedInTurn action limit retry params first groups (.error e)
  | chained {chains : List (List (Task × List α))}
      (batched : List.Forall₂ (fun g chain => Batched limit g.2 (chain.map Prod.snd) ∧
        ∀ b ∈ chain, TaskOf action retry (params g.1) b) groups chains)
      (numbered : NumberedFrom first (chains.flatten.map Prod.fst)) :
      BatchedInTurn action limit retry params first groups (.ok chains)

/-- **Groups that are batched in turn** give one chain of bounded batches, or fail with the first
batch that has no parameters. -/
theorem chainInTurn_batched {limit : Nat} (hlimit : 1 ≤ limit) (action : String)
    (retry : RetryPolicy) (params : κ → List α → Except PlanError Json) (first : Nat)
    (groups : List (κ × List α)) :
    BatchedInTurn action limit retry params first groups
      (chainInTurn action limit retry params (.startingAt first) groups) := by
  have hcut : ∀ items : List α, Batched limit items (cut (limit - 1) items) := by
    intro items
    have hitems := batched_cut (limit - 1) items
    rwa [Nat.sub_add_cancel hlimit] at hitems
  cases h : chainInTurn action limit retry params (.startingAt first) groups with
  | error e =>
    refine .failed ?_ (chainInTurn_error (Nat.ne_of_gt hlimit) h)
    rw [cutGroups, List.forall₂_map_right_iff, List.forall₂_same]
    exact fun g _ => ⟨rfl, hcut g.2⟩
  | ok chains =>
    obtain ⟨hgroups, hlinks⟩ := chainInTurn_ok h
    refine .chained (hgroups.imp fun g chain hg => ⟨hg.1 ▸ hcut g.2, hg.2⟩) ?_
    refine numberedFrom_of_draws ?_
    rw [List.map_map, List.length_map]
    exact hlinks

/-- Parameters for batches without the number 9. -/
def withoutNine (key : String) (batch : List Nat) : Except PlanError Json :=
  if batch.contains 9 then .error (.unresolvedBalancer key) else .ok (.str key)

/-- Three groups, one of them empty, are numbered through; of two batches without parameters the
first is the fault. -/
theorem chainInTurn_batched_uneven :
    let run (groups : List (String × List Nat)) :=
      chainInTurn "a" 2 .standard withoutNine (.startingAt 7) groups
    let answer (groups : List (String × List Nat)) := (run groups).map fun chains =>
      chains.map fun chain => chain.map fun b => (b.1.id, b.1.dependsOn, b.2)
    let uneven := [("x", [1, 2, 3]), ("y", []), ("z", [4])]
    let faulty := [("x", [1, 2, 3]), ("y", [4, 5, 9]), ("z", [9])]
    1 ≤ 2 ∧
      answer uneven =
        .ok [[("7", none, [1, 2]), ("8", some "7", [3])], [], [("9", some "8", [4])]] ∧
      BatchedInTurn "a" 2 .standard withoutNine 7 uneven (run uneven) ∧
      answer faulty = .error (.unresolvedBalancer "y") ∧
      BatchedInTurn "a" 2 .standard withoutNine 7 faulty (run faulty) := by
  intro run answer uneven faulty
  have hlimit : 1 ≤ 2 := by decide
  exact ⟨hlimit, by decide +kernel, chainInTurn_batched hlimit "a" .standard withoutNine 7 uneven,
    by decide +kernel, chainInTurn_batched hlimit "a" .standard withoutNine 7 faulty⟩

end BalancerImport
