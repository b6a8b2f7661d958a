import BalancerImport.Proofs.Plan.Grouping
import BalancerImport.Proofs.Text.Joined

/-!
# Numbered tasks and runs of groups

The tasks of a flow are numbered without gaps, across all groups that are batched with one source
of ids, so that an id stands for one task only. And what is batched group after group comes in runs:
the tasks of one group stand next to each other.

* `ActionIds.draws`: the ids that a source gives one after the other; `ActionIds.getElem?_draws`,
  `ActionIds.nodup_draws`;
* `chainFrom_draws`, `chainBatches_draws`: tasks take their ids from their source in order;
  `link_of_draws`: what each of them is then;
* `Contiguous`: equal members stand next to each other; `contiguous_of_runs`;
* `eraseDups_of_runs`: the distinct members of runs.
-/

namespace BalancerImport

/-! ## Action ids -/

namespace ActionIds

/-- A source after some draws. -/
def skip (n : Nat) (g : ActionIds) : ActionIds := { g with next := g.next + n }

/-- The ids that a source gives, each with the one before it if there is one. -/
def draws : Nat → ActionIds → List (String × Option String)
  | 0, _ => []
  | n + 1, g => g.draw.1 :: draws n g.draw.2

theorem draws_append (m n : Nat) : ∀ g : ActionIds,
    draws (m + n) g = draws m g ++ draws n (g.skip m) := by
  induction m with
  | zero => intro g; rw [Nat.zero_add]; rfl
  | succ m ih =>
    intro g
    rw [Nat.succ_add, draws, draws, ih, List.cons_append]
    congr 3
    simp only [skip, draw]
    congr 1
    omega

theorem map_fst_draws (n : Nat) : ∀ g : ActionIds,
    (draws n g).map Prod.fst = (List.range' g.next n).map fun k => toString k := by
  induction n with
  | zero => exact fun _ => rfl
  | succ n ih =>
    intro g
    rw [draws, List.map_cons, ih, List.range'_succ, List.map_cons]
    rfl

theorem getElem?_draws {n i : Nat} (hi : i < n) : ∀ g : ActionIds,
    (draws n g)[i]? = some (g.skip i).draw.1 := by
  induction n generalizing i with
  | zero => exact absurd hi (Nat.not_lt_zero i)
  | succ n ih =>
    intro g
    cases i with
    | zero => rfl
    | succ i =>
      rw [draws, List.getElem?_cons_succ, ih (Nat.lt_of_succ_lt_succ hi)]
      congr 3
      simp only [skip, draw]
      congr 1
      omega

/-- **A source never gives an id twice.** -/
theorem nodup_draws (n : Nat) (g : ActionIds) : ((draws n g).map Prod.fst).Nodup := by
  rw [map_fst_draws]
  exact (List.nodup_range').map fun _ _ => eq_of_toString_eq

end ActionIds

section

variable {α : Type} {action : String} {retry : RetryPolicy}
  {params : List α → Except PlanError Json}

/-- The id of a task, and that of the task it waits for. -/
def Task.link (t : Task) : String × Option String := (t.id, t.dependsOn)

/-- Tasks that take their ids from a new source are numbered, and each waits for the one before it. -/
theorem link_of_draws {first : Nat} {tasks : List Task}
    (h : tasks.map Task.link = (ActionIds.startingAt first).draws tasks.length) {i : Nat} {t : Task}
    (ht : tasks[i]? = some t) : t.id = toString (first + i) ∧
      t.dependsOn = if i = 0 then none else some (toString (first + (i - 1))) := by
  have hi : i < tasks.length := (List.getElem?_eq_some_iff.mp ht).1
  have hlink := congrArg (·[i]?) h
  simp only [List.getElem?_map, ht, ActionIds.getElem?_draws hi, Option.map_some,
    Option.some.injEq, Task.link, ActionIds.draw, ActionIds.skip, ActionIds.startingAt,
    Prod.mk.injEq] at hlink
  obtain ⟨hid, hdepends⟩ := hlink
  refine ⟨hid, hdepends.trans ?_⟩
  cases i with
  | zero => simp
  | succ i => simp

theorem chainFrom_draws : ∀ {batches : List (List α)} {ids ids' : ActionIds}
    {chain : List (Task × List α)},
    chainFrom action retry params ids batches = (.ok chain, ids') →
    (chain.map fun b => b.1.link) = ids.draws chain.length ∧ ids' = ids.skip chain.length
  | [], ids, ids', chain, h => by
    obtain ⟨hchain, rfl⟩ := Prod.mk.inj h
    obtain rfl := Except.ok.inj hchain
    exact ⟨rfl, rfl⟩
  | batch :: batches, ids, ids', chain, h => by
    simp only [chainFrom] at h
    split at h
    · simp at h
    · obtain ⟨hchain, rfl⟩ := Prod.mk.inj h
      obtain ⟨rest, hrest, rfl⟩ := map_ok hchain
      obtain ⟨hlinks, hids⟩ := chainFrom_draws (Prod.ext hrest rfl)
      refine ⟨?_, ?_⟩
      · rw [List.map_cons, hlinks, List.length_cons, ActionIds.draws]
        rfl
      · refine hids.trans ?_
        simp only [ActionIds.skip, ActionIds.draw, List.length_cons]
        congr 1
        omega

theorem chainBatches_draws {limit : Nat} {items : List α} {ids ids' : ActionIds}
    {chain : List (Task × List α)}
    (h : chainBatches action limit retry params items ids = (.ok chain, ids')) :
    (chain.map fun b => b.1.link) = ids.draws chain.length ∧ ids' = ids.skip chain.length := by
  unfold chainBatches at h
  split at h
  · simp at h
  · exact chainFrom_draws h

end

/-! ## Runs -/

section

variable {α : Type}

/-- Equal members of a list stand next to each other. -/
def Contiguous (l : List α) : Prop :=
  ∀ xs ys zs : List α, ∀ a : α, l = xs ++ a :: ys ++ a :: zs → ∀ b ∈ ys, b = a

/-- Members in the order of a rank that tells them apart are contiguous. -/
theorem contiguous_of_rank {l : List α} (rank : α → Nat)
    (hinj : ∀ a ∈ l, ∀ b ∈ l, rank a = rank b → a = b)
    (h : l.Pairwise fun a b => rank a ≤ rank b) : Contiguous l := by
  rintro xs ys zs a rfl b hb
  simp only [List.pairwise_append, List.pairwise_cons, List.mem_append, List.mem_cons] at h
  have hle : rank a ≤ rank b := h.1.2.1.1 b hb
  have hge : rank b ≤ rank a := h.2.2 b (.inr (.inr hb)) a (.inl rfl)
  exact hinj b (by simp [hb]) a (by simp) (Nat.le_antisymm hge hle)

/-- Each member as often as it says. -/
def ofRuns (runs : List (α × Nat)) : List α := runs.flatMap fun r => List.replicate r.2 r.1

theorem mem_of_mem_ofRuns {runs : List (α × Nat)} {a : α} (h : a ∈ ofRuns runs) :
    a ∈ runs.map Prod.fst := by
  obtain ⟨r, hr, ha⟩ := List.mem_flatMap.mp h
  rw [List.eq_of_mem_replicate ha]
  exact List.mem_map_of_mem hr

variable [DecidableEq α]

/-- **Runs of distinct members are contiguous.** -/
theorem contiguous_of_runs {runs : List (α × Nat)} (h : (runs.map Prod.fst).Nodup) :
    Contiguous (ofRuns runs) := by
  refine contiguous_of_rank (fun a => (runs.map Prod.fst).idxOf a) ?_ ?_
  · intro a ha b _ hab
    exact (List.idxOf_inj (mem_of_mem_ofRuns ha)).mp hab
  · rw [ofRuns, List.pairwise_flatMap]
    constructor
    · intro r _
      exact List.pairwise_replicate.mpr (.inr (Nat.le_refl _))
    · have hruns : runs.Pairwise fun r s =>
          (runs.map Prod.fst).idxOf r.1 ≤ (runs.map Prod.fst).idxOf s.1 := by
        rw [List.pairwise_iff_getElem]
        intro i j hi hj hij
        have hat : ∀ k (hk : k < runs.length), (runs.map Prod.fst).idxOf runs[k].1 = k := by
          intro k hk
          have hidx := h.idxOf_getElem k (by simpa using hk)
          rwa [List.getElem_map] at hidx
        rw [hat i hi, hat j hj]
        exact Nat.le_of_lt hij
      refine hruns.imp fun {r s} hrs a ha b hb => ?_
      rwa [List.eq_of_mem_replicate ha, List.eq_of_mem_replicate hb]

theorem eraseDups_replicate (n : Nat) (a : α) : (List.replicate (n + 1) a).eraseDups = [a] := by
  induction n with
  | zero => rfl
  | succ n ih => rw [List.replicate_succ', eraseDups_concat, if_pos (by simp), ih]

/-- The distinct members of runs, none of which is empty. -/
theorem eraseDups_of_runs : ∀ {runs : List (α × Nat)}, (runs.map Prod.fst).Nodup →
    (∀ r ∈ runs, 0 < r.2) → (ofRuns runs).eraseDups = runs.map Prod.fst
  | [], _, _ => rfl
  | (a, n) :: runs, hnodup, hpos => by
    rw [List.map_cons, List.nodup_cons] at hnodup
    have hn : 0 < n := hpos _ List.mem_cons_self
    obtain ⟨m, rfl⟩ := Nat.exists_eq_succ_of_ne_zero (Nat.pos_iff_ne_zero.mp hn)
    have hrest := eraseDups_of_runs hnodup.2 fun r hr => hpos r (List.mem_cons_of_mem _ hr)
    have hkeep : (ofRuns runs).removeAll (List.replicate (m + 1) a) = ofRuns runs := by
      rw [List.removeAll, List.filter_eq_self]
      intro b hb
      have hne : b ≠ a := fun he => hnodup.1 (he ▸ mem_of_mem_ofRuns hb)
      simp [hne]
    have hcons : ofRuns ((a, m + 1) :: runs) = List.replicate (m + 1) a ++ ofRuns runs := rfl
    rw [hcons, List.eraseDups_append, eraseDups_replicate, hkeep, hrest]
    rfl

end

end BalancerImport
