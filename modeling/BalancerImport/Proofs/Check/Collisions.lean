import BalancerImport.Proofs.Check.Duplicates

/-!
# Backends that are taken for duplicates

The key of a backend joins its fields by hyphens, and hyphens may stand in its texts as well. The
numbers of the key have none, so that the key tells the fields of backends whose hyphens stand in the
same fields. Where they do not, a hyphen may end one field of the one backend and stand inside that
of the other, and two backends that have nothing to do with each other are told of each other.

* `BackendRecord.SameBinding`: backends that are bound to the same rule at the same address;
  `BackendRecord.hyphens`: where the hyphens of a key stand;
* `BackendRecord.sameBinding_of_dedupKey`: a key is taken apart;
* **`BackendRecord.tells_iff_sameBinding`**: which backends are told of each other; and two
  (`BackendRecord.tells_shifted`) that should not be.
-/

namespace BalancerImport.BackendRecord

open Importable

/-- Two records ask for the same backend at the same rule. -/
structure SameBinding (r s : BackendRecord) : Prop where
  balancer : r.balancer = s.balancer
  ports : r.ports = s.ports
  domain : r.domain = s.domain
  path : r.path = s.path
  ip : r.ip = s.ip
  backendPorts : r.backendPorts = s.backendPorts

/-- How many hyphens stand in the texts of a key but for the last one. -/
def hyphens (r : BackendRecord) : List Nat :=
  [r.balancer, r.domain, r.path].map fun text => text.toList.count '-'

variable {r s : BackendRecord}

theorem SameBinding.dedupKey (h : SameBinding r s) : r.dedupKey = s.dedupKey := by
  simp only [BackendRecord.dedupKey, h.balancer, h.ports, h.domain, h.path, h.ip, h.backendPorts]

theorem SameBinding.hyphens (h : SameBinding r s) : r.hyphens = s.hyphens := by
  simp only [BackendRecord.hyphens, h.balancer, h.domain, h.path]

theorem toList_dedupKey (r : BackendRecord) : r.dedupKey.toList =
    r.balancer.toList ++ '-' :: ((Text.bracketedNumbers r.ports).toList ++ '-' ::
      (r.domain.toList ++ '-' :: (r.path.toList ++ '-' :: (r.ip.toList ++ '-' ::
        (Text.bracketedNumbers r.backendPorts).toList)))) := by
  simp only [dedupKey, String.toList_append, List.append_assoc]
  rfl

/-- **A key tells its fields**, once it is known where its hyphens stand. -/
theorem sameBinding_of_dedupKey (hhyphens : r.hyphens = s.hyphens)
    (hkey : r.dedupKey = s.dedupKey) : SameBinding r s := by
  simp only [hyphens, List.map_cons, List.map_nil, List.cons.injEq, and_true] at hhyphens
  obtain ⟨hbalancer, hdomain, hpath⟩ := hhyphens
  have hnumbers : ∀ ns : List Nat, '-' ∉ (Text.bracketedNumbers ns).toList :=
    Text.hyphen_not_mem_bracketedNumbers
  have hports : (Text.bracketedNumbers r.ports).toList.count '-' =
      (Text.bracketedNumbers s.ports).toList.count '-' := by
    rw [List.count_eq_zero.mpr (hnumbers _), List.count_eq_zero.mpr (hnumbers _)]
  have hparts := congrArg String.toList hkey
  rw [toList_dedupKey, toList_dedupKey] at hparts
  -- field by field from the left, and the last two from the right
  obtain ⟨hb, hparts⟩ := append_cons_inj_of_count hbalancer hparts
  obtain ⟨hp, hparts⟩ := append_cons_inj_of_count hports hparts
  obtain ⟨hd, hparts⟩ := append_cons_inj_of_count hdomain hparts
  obtain ⟨hu, hparts⟩ := append_cons_inj_of_count hpath hparts
  obtain ⟨hi, hq⟩ := append_cons_inj_of_not_mem (hnumbers _) (hnumbers _) hparts
  rw [String.toList_inj] at hb hp hd hu hi hq
  exact ⟨hb, Text.bracketedNumbers_inj hp, hd, hu, hi, Text.bracketedNumbers_inj hq⟩

/-- **Two backends of a batch are told of each other if and only if they share their key**; and they
ask for the same binding if and only if they are and their hyphens stand in the same fields. -/
theorem tells_iff_sameBinding {rs : List BackendRecord} {i k : Nat} (hne : i ≠ k)
    (hr : rs[i]? = some r) (hs : rs[k]? = some s) :
    (Tells rs i k ∧ Tells rs k i ↔ r.dedupKey = s.dedupKey) ∧
      ((Tells rs i k ∧ Tells rs k i) ∧ r.hyphens = s.hyphens ↔ SameBinding r s) := by
  have htwin : Tells rs i k ∧ Tells rs k i ↔ r.dedupKey = s.dedupKey := by
    rw [tells_iff, tells_iff]
    constructor
    · rintro ⟨⟨-, r', s', hr', hs', hkey⟩, -⟩
      obtain rfl := Option.some.inj (hr.symm.trans hr')
      obtain rfl := Option.some.inj (hs.symm.trans hs')
      exact hkey.symm
    · intro hkey
      exact ⟨⟨hne.symm, r, s, hr, hs, hkey.symm⟩, hne, s, r, hs, hr, hkey⟩
  refine ⟨htwin, ?_⟩
  rw [htwin]
  exact ⟨fun h => sameBinding_of_dedupKey h.2 h.1, fun h => ⟨h.dedupKey, h.hyphens⟩⟩

/-- A backend to be bound to the rule of a domain and a path. -/
def ruleRecord (domain path : String) (weight : Int) : BackendRecord :=
  { blank with
    vip := "1.1.1.1", balancer := "lb-1", protocol := "HTTP", ports := [80], domain := domain,
    path := path, kind := "ENI", ip := "10.0.0.1", backendPorts := [8080], weight := some weight }

/-- One binding with two weights. -/
def weighedRecords : List BackendRecord := [ruleRecord "app-v1" "/x" 10, ruleRecord "app-v1" "/x" 20]

theorem tells_iff_sameBinding_weighed : Tells weighedRecords 0 1 ∧ Tells weighedRecords 1 0 := by
  have hfirst : weighedRecords[0]? = some (ruleRecord "app-v1" "/x" 10) := rfl
  have hsecond : weighedRecords[1]? = some (ruleRecord "app-v1" "/x" 20) := rfl
  obtain ⟨-, hfields⟩ := tells_iff_sameBinding (by decide) hfirst hsecond
  exact (hfields.mpr ⟨rfl, rfl, rfl, rfl, rfl, rfl⟩).1

/-- Backends of two rules, of which the one has in its path what the other has in its domain. -/
def shiftedRecords : List BackendRecord := [ruleRecord "app" "v1-/x" 10, ruleRecord "app-v1" "/x" 10]

/-- Nothing is wrong with the two, and they are told of each other. -/
theorem tells_shifted : ¬ ∀ rs : List BackendRecord, (∀ r ∈ rs, violations r = []) →
    ∀ i k r s, i ≠ k → rs[i]? = some r → rs[k]? = some s →
      (Tells rs i k ∧ Tells rs k i ↔ SameBinding r s) := by
  intro hclaim
  have hvalid : ∀ r ∈ shiftedRecords, violations r = [] := by decide +kernel
  have hkey : (ruleRecord "app" "v1-/x" 10).dedupKey = (ruleRecord "app-v1" "/x" 10).dedupKey := by
    decide +kernel
  have htwin : Twin shiftedRecords 0 1 ∧ Twin shiftedRecords 1 0 :=
    ⟨⟨by decide, _, _, rfl, rfl, hkey.symm⟩, by decide, _, _, rfl, rfl, hkey⟩
  have hsame := (hclaim shiftedRecords hvalid 0 1 _ _ (by decide) rfl rfl).mp
    ⟨tells_iff.mpr htwin.1, tells_iff.mpr htwin.2⟩
  exact absurd hsame.domain (by decide)

end BalancerImport.BackendRecord
