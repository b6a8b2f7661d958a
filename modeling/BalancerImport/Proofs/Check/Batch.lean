import BalancerImport.Proofs.Check.Caching
import BalancerImport.Proofs.Check.Duplicates
import BalancerImport.Proofs.Record.Rules

/-!
# What becomes of each record

A validation that succeeds treats each record by itself, once it is known which records of the batch
share their key; one that fails does so for a single record.

* `Cloud.balancerIn?`: the balancer of a cloud id in a scope;
* `checkBalancers_eq`, `screenAll_ok`, `screenAll_error`, `checkSurvivors_ok`,
  `checkSurvivors_error`: the stages, record by record;
* `Candidate`: a record against which nothing speaks before the cloud is asked; `Unfound`: one whose
  balancer is not found;
* `Judged`: what can become of a record; `Judged.settled`: in short, for rules that let no record
  off that is ruled out;
* `Verdict`, `Verdicts`: a record, or each record of a batch, gets exactly one verdict;
* **`judged_of_validateRecords`**, **`found_of_validateRecords`**, **`validateRecords_error`**: the
  two outcomes of a validation.
-/

namespace BalancerImport

open Importable Separable

/-! ## Balancers -/

/-- The balancer that a cloud id stands for in a scope: of several the last. -/
def Cloud.balancerIn? (cloud : Cloud) (scope : Scope) (cloudId : String) : Option LoadBalancer :=
  balancerOf? (cloud.snapshot.balancers.filter fun lb => lb.inScope scope) cloudId

section

variable {R : Type} [Importable R] {ctx : Context} {cloud : Cloud} {rs : List R}

/-- Of balancers that are asked for by their ids, each such id stands for the same one. -/
theorem balancerOf?_filter {wanted : List String} {cloudId : String} (h : cloudId ∈ wanted)
    (scope : Scope) (balancers : List LoadBalancer) :
    balancerOf? (balancers.filter fun lb => lb.inScope scope && wanted.contains lb.cloudId) cloudId =
      balancerOf? (balancers.filter fun lb => lb.inScope scope) cloudId := by
  unfold balancerOf?
  rw [← List.filter_reverse, ← List.filter_reverse, List.find?_filter, List.find?_filter]
  refine congrArg (List.find? · _) (funext fun lb => ?_)
  by_cases hid : lb.cloudId = cloudId
  · simp [hid, h]
  · simp [hid]

theorem screenAll_congr {found found' : List LoadBalancer} : ∀ {rs : List R},
    (∀ r ∈ rs, screen ctx found r = screen ctx found' r) →
      screenAll ctx found rs = screenAll ctx found' rs
  | [], _ => rfl
  | r :: rs, h => by
    obtain ⟨hr, hrs⟩ := List.forall_mem_cons.mp h
    rw [screenAll, screenAll, hr, screenAll_congr hrs]

theorem screenAll_rejected {found : List LoadBalancer} : ∀ {rs : List R},
    (∀ r ∈ rs, isRejected r = true) →
      screenAll ctx found rs = .ok (rs.map fun r => { record := r, survives := false })
  | [], _ => rfl
  | r :: rs, h => by
    obtain ⟨hr, hrs⟩ := List.forall_mem_cons.mp h
    rw [screenAll, screenAll_rejected hrs, screen, if_pos hr]
    rfl

theorem mem_wantedBalancers {r : R} (hr : r ∈ rs) (hlive : isRejected r = false) :
    balancer r ∈ wantedBalancers rs := by
  rw [wantedBalancers, List.mem_eraseDups]
  exact List.mem_map_of_mem (List.mem_filter.mpr ⟨hr, by simp [hlive]⟩)

/-- **While the cloud can be reached, all its balancers of the scope might as well be asked for.** -/
theorem checkBalancers_eq (hcloud : cloud.outage = none) (rs : List R) :
    checkBalancers ctx cloud rs =
      screenAll ctx (cloud.snapshot.balancers.filter fun lb => lb.inScope ctx.scope) rs := by
  unfold checkBalancers
  split
  · rename_i hnone
    refine (screenAll_rejected fun r hr => ?_).symm
    by_contra hlive
    have hmem := mem_wantedBalancers hr (Bool.eq_false_iff.mpr hlive)
    rw [List.isEmpty_iff.mp hnone] at hmem
    exact absurd hmem List.not_mem_nil
  · simp only [Cloud.balancers, Cloud.answer, hcloud]
    refine screenAll_congr fun r hr => ?_
    unfold screen
    split
    · rfl
    · rename_i hlive
      rw [balancerOf?_filter (mem_wantedBalancers hr (Bool.eq_false_iff.mpr hlive))]

theorem screenAll_ok {found : List LoadBalancer} : ∀ {rs : List R} {screened : List (Screened R)},
    screenAll ctx found rs = .ok screened →
      List.Forall₂ (fun r s => screen ctx found r = .ok s) rs screened
  | [], _, h => by
    obtain rfl := Except.ok.inj h
    exact .nil
  | r :: rs, _, h => by
    unfold screenAll at h
    split at h
    · exact nomatch h
    · rename_i s hs
      obtain ⟨rest, hrest, rfl⟩ := map_ok h
      exact .cons hs (screenAll_ok hrest)

theorem screenAll_error {found : List LoadBalancer} {e : CheckError} : ∀ {rs : List R},
    screenAll ctx found rs = .error e → ∃ r ∈ rs, screen ctx found r = .error e
  | [], h => nomatch h
  | r :: rs, h => by
    unfold screenAll at h
    split at h
    · rename_i e' he
      obtain rfl := Except.error.inj h
      exact ⟨r, List.mem_cons_self, he⟩
    · obtain ⟨r', hr', he⟩ := screenAll_error (map_error h)
      exact ⟨r', List.mem_cons_of_mem _ hr', he⟩

end

/-! ## Survivors -/

section

variable {R : Type} {check : R → Except CheckError R}

theorem checkSurvivors_cons (s : Screened R) (screened : List (Screened R)) :
    checkSurvivors check (s :: screened) =
      match if s.survives then check s.record else .ok s.record with
      | .error e => .error e
      | .ok r => (checkSurvivors check screened).map (r :: ·) := by
  rw [checkSurvivors]
  cases s.survives with
  | false => cases checkSurvivors check screened <;> rfl
  | true => cases check s.record <;> cases checkSurvivors check screened <;> rfl

theorem checkSurvivors_ok : ∀ {screened : List (Screened R)} {rs : List R},
    checkSurvivors check screened = .ok rs → List.Forall₂ (fun s r =>
      (if s.survives then check s.record else .ok s.record) = .ok r) screened rs
  | [], _, h => by
    obtain rfl := Except.ok.inj h
    exact .nil
  | s :: screened, _, h => by
    rw [checkSurvivors_cons] at h
    split at h
    · exact nomatch h
    · rename_i r hr
      obtain ⟨rest, hrest, rfl⟩ := map_ok h
      exact .cons hr (checkSurvivors_ok hrest)

theorem checkSurvivors_error {e : CheckError} : ∀ {screened : List (Screened R)},
    checkSurvivors check screened = .error e →
      ∃ s ∈ screened, s.survives = true ∧ check s.record = .error e
  | [], h => nomatch h
  | s :: screened, h => by
    rw [checkSurvivors_cons] at h
    split at h
    · rename_i e' he
      obtain rfl := Except.error.inj h
      split at he
      · rename_i hs
        exact ⟨s, List.mem_cons_self, hs, he⟩
      · exact nomatch he
    · obtain ⟨s', hs', he⟩ := checkSurvivors_error (map_error h)
      exact ⟨s', List.mem_cons_of_mem _ hs', he⟩

end

/-! ## Candidates -/

variable {R : Type} [Importable R] [Separable R] [Ruled R]

/-- A record of a batch that, in canonical form, is well formed and shares its key with no other. -/
structure Candidate (rs : List R) (i : Nat) (r : R) : Prop where
  listed : rs[i]? = some r
  wellFormed : Ruled.WellFormed (canonical r)
  alone : ∀ j s, rs[j]? = some s → dedupKey (canonical s) = dedupKey (canonical r) → j = i

/-- A candidate's balancer is not found in the scope. -/
def Unfound (ctx : Context) (cloud : Cloud) (rs : List R) : Prop :=
  ∃ i r, Candidate rs i r ∧ cloud.balancerIn? ctx.scope (balancer r) = none

/-- What speaks against a record before the cloud is asked. -/
def objections (rs : List R) (i : Nat) (r : R) : List String :=
  violations (canonical r) ++
    (twins (rs.map fun r => dedupKey (canonical r)) i).map duplicateMessage

omit [Separable R] in
theorem objections_eq_nil {rs : List R} {i : Nat} {r : R} (hr : rs[i]? = some r) :
    objections rs i r = [] ↔ Candidate rs i r := by
  rw [objections, List.append_eq_nil_iff, List.map_eq_nil_iff, Ruled.violations_eq_nil,
    List.eq_nil_iff_forall_not_mem (l := twins _ i)]
  constructor
  · rintro ⟨hvalid, htwins⟩
    refine ⟨hr, hvalid, fun j s hs hkey => by_contra fun hne => htwins j ?_⟩
    rw [mem_twins, List.getElem?_map, List.getElem?_map, hs, hr, List.length_map]
    exact ⟨(List.getElem?_eq_some_iff.mp hs).1, hne, congrArg some hkey⟩
  · rintro ⟨-, hvalid, halone⟩
    refine ⟨hvalid, fun j hj => ?_⟩
    obtain ⟨hlt, hne, hkey⟩ := mem_twins.mp hj
    rw [List.length_map] at hlt
    rw [List.getElem?_map, List.getElem?_map, hr, List.getElem?_eq_getElem hlt] at hkey
    exact hne (halone j rs[j] (List.getElem?_eq_getElem hlt) (Option.some.inj hkey))

/-- A batch as it is checked against the cloud. -/
def prepared (rs : List R) : List R :=
  markDuplicates (rs.map fun r => checkAlone (refreshed r))

omit [Ruled R] in
theorem getElem?_prepared (rs : List R) (i : Nat) : (prepared rs)[i]? =
    rs[i]?.map fun r => mapState (RecordState.rejectAll (objections rs i r)) (refreshed r) := by
  have hkeys : (rs.map fun r => checkAlone (refreshed r)).map dedupKey =
      rs.map fun r => dedupKey (canonical r) := by
    rw [List.map_map]
    exact List.map_congr_left fun r _ => (dedupKey_mapState _ _).trans (dedupKey_refreshed r)
  rw [prepared, getElem?_markDuplicates, hkeys, List.getElem?_map, Option.map_map]
  refine congrArg (rs[i]?.map ·) (funext fun r => ?_)
  rw [objections, mapState_rejectAll_append, ← violations_refreshed]
  rfl

theorem isRejected_prepared {rs : List R} {i : Nat} {r : R} (hr : rs[i]? = some r) :
    isRejected (mapState (RecordState.rejectAll (objections rs i r)) (refreshed r)) = false ↔
      Candidate rs i r := by
  rw [isRejected, state_mapState, state_refreshed, RecordState.isRejected_rejectAll_initial,
    Bool.not_eq_false', List.isEmpty_iff, objections_eq_nil hr]

/-! ## Verdicts -/

/-- The status of a validated record, of which it is known when it can be executed, and when it is
superfluous because what it asks for exists. -/
inductive Verdict (executable existing : Prop) : Status → Prop where
  | executable (h : executable) (hnot : ¬ existing) : Verdict executable existing .executable
  | existing (hnot : ¬ executable) (h : existing) : Verdict executable existing .existing
  | notExecutable (hnot : ¬ executable) (hnot' : ¬ existing) :
      Verdict executable existing .notExecutable

namespace Verdict

variable {executable existing : Prop} {s : Status}

theorem executable_iff (h : Verdict executable existing s) : s = .executable ↔ executable := by
  cases h <;> simp [*]

theorem existing_iff (h : Verdict executable existing s) : s = .existing ↔ existing := by
  cases h <;> simp [*]

theorem notExecutable_iff (h : Verdict executable existing s) :
    s = .notExecutable ↔ ¬ executable ∧ ¬ existing := by
  cases h <;> simp [*]

end Verdict

/-- The verdicts on all records of a batch: which are executable, which exist, and that the others
are ruled out. -/
structure Verdicts (Executable Existing : Nat → R → Prop) (rs validated : List R) : Prop where
  length : validated.length = rs.length
  executable : ∀ {i r v}, rs[i]? = some r → validated[i]? = some v →
    ((state v).status = .executable ↔ Executable i r)
  existing : ∀ {i r v}, rs[i]? = some r → validated[i]? = some v →
    ((state v).status = .existing ↔ Existing i r)
  notExecutable : ∀ {i r v}, rs[i]? = some r → validated[i]? = some v →
    ((state v).status = .notExecutable ↔ ¬ Executable i r ∧ ¬ Existing i r)

omit [Separable R] [Ruled R] in
theorem Verdicts.of_forall {Executable Existing : Nat → R → Prop} {rs validated : List R}
    (hlength : validated.length = rs.length)
    (h : ∀ {i r v}, rs[i]? = some r → validated[i]? = some v →
      Verdict (Executable i r) (Existing i r) (state v).status) :
    Verdicts Executable Existing rs validated :=
  ⟨hlength, fun hr hv => (h hr hv).executable_iff, fun hr hv => (h hr hv).existing_iff,
    fun hr hv => (h hr hv).notExecutable_iff⟩

/-! ## Outcomes -/

theorem finish_pinned {s : RecordState} (h : s.status = .notExecutable) :
    s.finish.status = .notExecutable := by
  simp [RecordState.finish, h]

/-- What becomes of a record: it is ruled out before the cloud is asked; or it is barred from the
region of its balancer; or it is checked by the rules of the vendor, as one that names its balancer
wrongly and is ruled out for it, or as it is. -/
inductive Judged (rules : VendorRules R) (ctx : Context) (cloud : Cloud) (rs : List R) (i : Nat)
    (r v : R) : Prop where
  | ruledOut (hcandidate : ¬ Candidate rs i r) (hv : (state v).status = .notExecutable)
  | barred (hcandidate : Candidate rs i r) (lb : LoadBalancer)
      (hlb : cloud.balancerIn? ctx.scope (balancer r) = some lb)
      (hregion : ctx.allows lb.region = false) (hv : (state v).status = .notExecutable)
  | misnamed (hcandidate : Candidate rs i r) (lb : LoadBalancer)
      (hlb : cloud.balancerIn? ctx.scope (balancer r) = some lb)
      (hregion : ctx.allows lb.region = true) (hvip : lb.matchesVip (vip r) = false)
      (reason : String) (checked : R)
      (hchecked : rules.check (Lookups.direct cloud)
        (reject reason (withLbId lb.id (refreshed r))) = .ok checked)
      (hv : v = mapState RecordState.finish checked)
  | checked (hcandidate : Candidate rs i r) (lb : LoadBalancer)
      (hlb : cloud.balancerIn? ctx.scope (balancer r) = some lb)
      (hregion : ctx.allows lb.region = true) (hvip : lb.matchesVip (vip r) = true) (checked : R)
      (hchecked : rules.check (Lookups.direct cloud) (withLbId lb.id (refreshed r)) = .ok checked)
      (hv : v = mapState RecordState.finish checked)

variable {rules : VendorRules R} {ctx : Context} {cloud : Cloud} {rs validated : List R}

omit [Separable R] [Ruled R] in
/-- A validation without its caches. -/
theorem validateRecords_eq (hcloud : cloud.outage = none) (hrules : rules.Transparent cloud)
    (rs : List R) : (validateRecords rules ctx cloud rs).1 =
      match screenAll ctx (cloud.snapshot.balancers.filter fun lb => lb.inScope ctx.scope)
          (prepared rs) with
      | .error e => .error e
      | .ok screened => (checkSurvivors (rules.check (Lookups.direct cloud)) screened).map
          fun rs => rs.map (mapState RecordState.finish) := by
  have hprepared : markDuplicates (rs.map fun r => checkAlone (refreshed r)) = prepared rs := rfl
  simp only [validateRecords, hprepared, checkBalancers_eq hcloud]
  cases screenAll ctx (cloud.snapshot.balancers.filter fun lb => lb.inScope ctx.scope)
      (prepared rs) with
  | error e => rfl
  | ok screened => exact congrArg (Except.map _) (hrules screened)

omit [Separable R] [Ruled R] in
/-- What the common check makes of a record whose balancer was found. -/
theorem screenWith_cases (ctx : Context) (lb : LoadBalancer) (r : R) :
    (ctx.allows lb.region = false ∧ ∃ reason, screenWith ctx lb r =
      { record := reject reason (withLbId lb.id r), survives := false }) ∨
    (ctx.allows lb.region = true ∧ lb.matchesVip (vip (withLbId lb.id r)) = false ∧
      ∃ reason, screenWith ctx lb r =
        { record := reject reason (withLbId lb.id r), survives := true }) ∨
    (ctx.allows lb.region = true ∧ lb.matchesVip (vip (withLbId lb.id r)) = true ∧
      screenWith ctx lb r = { record := withLbId lb.id r, survives := true }) := by
  simp only [screenWith]
  cases hregion : ctx.allows lb.region with
  | false => exact .inl ⟨rfl, _, rfl⟩
  | true =>
    cases hvip : lb.matchesVip (vip (withLbId lb.id r)) with
    | false => exact .inr (.inl ⟨rfl, rfl, _, rfl⟩)
    | true => exact .inr (.inr ⟨rfl, rfl, rfl⟩)

/-- What the common check makes of a prepared record, if it makes anything of it. -/
theorem screen_prepared {i : Nat} {r : R} {s : Screened R} (hr : rs[i]? = some r)
    (hs : screen ctx (cloud.snapshot.balancers.filter fun lb => lb.inScope ctx.scope)
      (mapState (RecordState.rejectAll (objections rs i r)) (refreshed r)) = .ok s) :
    (¬ Candidate rs i r ∧ s.survives = false ∧ (state s.record).status = .notExecutable) ∨
    (Candidate rs i r ∧ ∃ lb, cloud.balancerIn? ctx.scope (balancer r) = some lb ∧
      s = screenWith ctx lb (refreshed r)) := by
  by_cases hcandidate : Candidate rs i r
  · have hlive := (isRejected_prepared hr).mpr hcandidate
    rw [(objections_eq_nil hr).mpr hcandidate, mapState_rejectAll_nil, id_eq] at hs hlive
    rw [screen, if_neg (by simp [hlive]), balancer_refreshed] at hs
    refine .inr ⟨hcandidate, ?_⟩
    cases hlb : cloud.balancerIn? ctx.scope (balancer r) with
    | none =>
      rw [show balancerOf? _ (balancer r) = none from hlb] at hs
      exact nomatch hs
    | some lb =>
      rw [show balancerOf? _ (balancer r) = some lb from hlb] at hs
      exact ⟨lb, rfl, (Except.ok.inj hs).symm⟩
  · have hrejected : isRejected
        (mapState (RecordState.rejectAll (objections rs i r)) (refreshed r)) = true :=
      (Bool.not_eq_false _).mp (mt (isRejected_prepared hr).mp hcandidate)
    rw [screen, if_pos hrejected] at hs
    obtain rfl := Except.ok.inj hs
    exact .inl ⟨hcandidate, rfl, beq_iff_eq.mp hrejected⟩

/-- **What becomes of each record of a batch that is validated.** -/
theorem judged_of_validateRecords (hcloud : cloud.outage = none) (hrules : rules.Transparent cloud)
    (h : (validateRecords rules ctx cloud rs).1 = .ok validated) {i : Nat} {r v : R}
    (hr : rs[i]? = some r) (hv : validated[i]? = some v) : Judged rules ctx cloud rs i r v := by
  rw [validateRecords_eq hcloud hrules] at h
  split at h
  · exact nomatch h
  · rename_i screened hscreened
    obtain ⟨checked, hchecked, rfl⟩ := map_ok h
    obtain ⟨k, hk, rfl⟩ := Option.map_eq_some_iff.mp ((List.getElem?_map ..).symm.trans hv)
    have hscreen := screenAll_ok hscreened
    have hcheck := checkSurvivors_ok hchecked
    have hlt : i < screened.length := by
      rw [hcheck.length_eq]
      exact (List.getElem?_eq_some_iff.mp hk).1
    have hs := forall₂_getElem? hscreen ((getElem?_prepared rs i).trans (congrArg _ hr))
      (List.getElem?_eq_getElem hlt)
    have hk := forall₂_getElem? hcheck (List.getElem?_eq_getElem hlt) hk
    rcases screen_prepared hr hs with ⟨hcandidate, hdead, hstatus⟩ | ⟨hcandidate, lb, hlb, hlive⟩
    · rw [hdead] at hk
      obtain rfl := Except.ok.inj hk
      exact .ruledOut hcandidate (by rw [state_mapState, finish_pinned hstatus])
    · have hvip : vip (withLbId lb.id (refreshed r)) = vip r := by rw [vip_withLbId, vip_refreshed]
      have hcases := screenWith_cases ctx lb (refreshed r)
      rw [← hlive, hvip] at hcases
      rcases hcases with ⟨hregion, reason, hs⟩ | ⟨hregion, hvip, reason, hs⟩ | ⟨hregion, hvip, hs⟩
      · rw [hs] at hk
        obtain rfl := Except.ok.inj hk
        refine .barred hcandidate lb hlb hregion ?_
        rw [state_mapState, finish_pinned]
        rw [reject, state_mapState]
        rfl
      · rw [hs] at hk
        exact .misnamed hcandidate lb hlb hregion hvip reason k hk rfl
      · rw [hs] at hk
        exact .checked hcandidate lb hlb hregion hvip k hk rfl

/-- A balancer in a scope is the one that a record is about and names, and lies in an allowed
region. -/
structure Admits (ctx : Context) (cloud : Cloud) (lb : LoadBalancer) (r : R) : Prop where
  found : cloud.balancerIn? ctx.scope (balancer r) = some lb
  region : lb.region ∈ ctx.regions
  vip : vip r ≠ "" ∧ (vip r = lb.domain ∨ vip r ∈ lb.addresses)

theorem matchesVip_iff {lb : LoadBalancer} {text : String} :
    lb.matchesVip text = true ↔ text ≠ "" ∧ (text = lb.domain ∨ text ∈ lb.addresses) := by
  unfold LoadBalancer.matchesVip
  by_cases hempty : text = ""
  · simp [hempty]
  · by_cases hdomain : lb.domain = text
    · simp [hempty, hdomain]
    · simp [hempty, hdomain, Ne.symm hdomain]

/-- Rules that leave a record ruled out. -/
def VendorRules.Pinning (rules : VendorRules R) (cloud : Cloud) : Prop :=
  ∀ r r', (state r).status = .notExecutable → rules.check (Lookups.direct cloud) r = .ok r' →
    (state r').status = .notExecutable

/-- **A record is ruled out, or it is a candidate whose balancer admits it** and is checked by the
rules of the vendor as it is. -/
theorem Judged.settled (hpinning : rules.Pinning cloud) {i : Nat} {r v : R}
    (h : Judged rules ctx cloud rs i r v) :
    ((state v).status = .notExecutable ∧ ¬ (Candidate rs i r ∧ ∃ lb, Admits ctx cloud lb r)) ∨
    (Candidate rs i r ∧ ∃ lb, Admits ctx cloud lb r ∧ ∃ checked,
      rules.check (Lookups.direct cloud) (withLbId lb.id (refreshed r)) = .ok checked ∧
        v = mapState RecordState.finish checked) := by
  cases h with
  | ruledOut hcandidate hv => exact .inl ⟨hv, fun h => hcandidate h.1⟩
  | barred hcandidate lb hlb hregion hv =>
    refine .inl ⟨hv, fun ⟨_, lb', h⟩ => ?_⟩
    obtain rfl := Option.some.inj (hlb.symm.trans h.found)
    simp [Context.allows, h.region] at hregion
  | misnamed hcandidate lb hlb hregion hvip reason checked hchecked hv =>
    refine .inl ⟨?_, fun ⟨_, lb', h⟩ => ?_⟩
    · rw [hv, state_mapState]
      refine finish_pinned (hpinning _ _ ?_ hchecked)
      rw [reject, state_mapState]
      rfl
    · obtain rfl := Option.some.inj (hlb.symm.trans h.found)
      rw [matchesVip_iff.mpr h.vip] at hvip
      exact nomatch hvip
  | checked hcandidate lb hlb hregion hvip checked hchecked hv =>
    refine .inr ⟨hcandidate, lb, ⟨hlb, ?_, matchesVip_iff.mp hvip⟩, checked, hchecked, hv⟩
    simpa [Context.allows] using hregion

/-- Something becomes of each candidate. -/
theorem Candidate.judged (hcloud : cloud.outage = none) (hrules : rules.Transparent cloud)
    (h : (validateRecords rules ctx cloud rs).1 = .ok validated) {i : Nat} {r : R}
    (hcandidate : Candidate rs i r) : ∃ v, Judged rules ctx cloud rs i r v := by
  have hlt : i < validated.length := by
    rw [length_validateRecords h]
    exact (List.getElem?_eq_some_iff.mp hcandidate.listed).1
  exact ⟨_, judged_of_validateRecords hcloud hrules h hcandidate.listed
    (List.getElem?_eq_getElem hlt)⟩

/-- **A validation that succeeds found the balancers of all candidates.** -/
theorem found_of_validateRecords (hcloud : cloud.outage = none) (hrules : rules.Transparent cloud)
    (h : (validateRecords rules ctx cloud rs).1 = .ok validated) : ¬ Unfound ctx cloud rs := by
  rintro ⟨i, r, hcandidate, hnone⟩
  obtain ⟨v, hv⟩ := hcandidate.judged hcloud hrules h
  cases hv with
  | ruledOut hnot => exact hnot hcandidate
  | barred _ lb hlb | misnamed _ lb hlb | checked _ lb hlb => exact nomatch hnone.symm.trans hlb

/-- The common check fails only for a candidate whose balancer is not found. -/
theorem screen_prepared_error {i : Nat} {r : R} {e : CheckError} (hr : rs[i]? = some r)
    (h : screen ctx (cloud.snapshot.balancers.filter fun lb => lb.inScope ctx.scope)
      (mapState (RecordState.rejectAll (objections rs i r)) (refreshed r)) = .error e) :
    Candidate rs i r ∧ cloud.balancerIn? ctx.scope (balancer r) = none ∧
      e = .unknownBalancer (balancer r) := by
  unfold screen at h
  split at h
  · exact nomatch h
  · rename_i hlive
    split at h
    · rename_i hnone
      rw [balancer_mapState, balancer_refreshed] at hnone h
      exact ⟨(isRejected_prepared hr).mp (Bool.eq_false_iff.mpr hlive), hnone,
        (Except.error.inj h).symm⟩
    · exact nomatch h

omit [Ruled R] in
/-- A record that survives the common check names a balancer in an allowed region, and nothing is
noted on it but that balancer and why it is ruled out. -/
theorem screenWith_survives {lb : LoadBalancer} {r : R} (h : (screenWith ctx lb r).survives = true) :
    lb.region ∈ ctx.regions ∧ ∃ reasons, (screenWith ctx lb r).record =
      mapState (RecordState.rejectAll reasons) (withLbId lb.id r) := by
  have hallowed : ctx.allows lb.region = true → lb.region ∈ ctx.regions := by
    simp [Context.allows]
  rcases screenWith_cases ctx lb r with ⟨-, reason, hs⟩ | ⟨hregion, -, reason, hs⟩ | ⟨hregion, -, hs⟩
  · rw [hs] at h
    exact nomatch h
  · rw [hs]
    exact ⟨hallowed hregion, [reason], rfl⟩
  · rw [hs]
    exact ⟨hallowed hregion, [], by rw [mapState_rejectAll_nil, id_eq]⟩

/-- **Why a validation fails**: the balancer of a candidate is not found; or all are, and the rules
of the vendor fail for a candidate whose balancer lies in an allowed region. -/
theorem validateRecords_error (hcloud : cloud.outage = none) (hrules : rules.Transparent cloud)
    {e : CheckError} (h : (validateRecords rules ctx cloud rs).1 = .error e) :
    (Unfound ctx cloud rs ∧ ∃ cloudId, e = .unknownBalancer cloudId) ∨
    (¬ Unfound ctx cloud rs ∧ ∃ i r lb reasons, Candidate rs i r ∧
      cloud.balancerIn? ctx.scope (balancer r) = some lb ∧ lb.region ∈ ctx.regions ∧
      rules.check (Lookups.direct cloud)
        (mapState (RecordState.rejectAll reasons) (withLbId lb.id (refreshed r))) = .error e) := by
  have hlisted : ∀ {i : Nat} {p : R}, (prepared rs)[i]? = some p → ∃ r, rs[i]? = some r ∧
      mapState (RecordState.rejectAll (objections rs i r)) (refreshed r) = p :=
    fun hp => Option.map_eq_some_iff.mp ((getElem?_prepared rs _).symm.trans hp)
  rw [validateRecords_eq hcloud hrules] at h
  split at h
  · rename_i e' hscreened
    obtain rfl := Except.error.inj h
    obtain ⟨p, hp, hscreen⟩ := screenAll_error hscreened
    obtain ⟨i, hi⟩ := List.mem_iff_getElem?.mp hp
    obtain ⟨r, hr, rfl⟩ := hlisted hi
    obtain ⟨hcandidate, hnone, he⟩ := screen_prepared_error hr hscreen
    exact .inl ⟨⟨i, r, hcandidate, hnone⟩, _, he⟩
  · rename_i screened hscreened
    have hscreen := screenAll_ok hscreened
    refine .inr ⟨fun ⟨i, r, hcandidate, hnone⟩ => ?_, ?_⟩
    · have hp := (getElem?_prepared rs i).trans (congrArg _ hcandidate.listed)
      have hlt : i < screened.length := by
        rw [← hscreen.length_eq]
        exact (List.getElem?_eq_some_iff.mp hp).1
      rcases screen_prepared hcandidate.listed
        (forall₂_getElem? hscreen hp (List.getElem?_eq_getElem hlt)) with ⟨hnot, -⟩ | ⟨-, lb, hlb, -⟩
      · exact hnot hcandidate
      · exact nomatch hnone.symm.trans hlb
    · obtain ⟨s, hs, hsurvives, hfails⟩ := checkSurvivors_error (map_error h)
      obtain ⟨i, hi⟩ := List.mem_iff_getElem?.mp hs
      have hlt : i < (prepared rs).length := by
        rw [hscreen.length_eq]
        exact (List.getElem?_eq_some_iff.mp hi).1
      obtain ⟨r, hr, he⟩ := hlisted (List.getElem?_eq_getElem hlt)
      have hone := forall₂_getElem? hscreen (List.getElem?_eq_getElem hlt) hi
      rw [← he] at hone
      rcases screen_prepared hr hone with ⟨-, hdead, -⟩ | ⟨hcandidate, lb, hlb, rfl⟩
      · exact nomatch hdead.symm.trans hsurvives
      · obtain ⟨hregion, reasons, hrecord⟩ := screenWith_survives hsurvives
        exact ⟨i, r, lb, reasons, hcandidate, hlb, hregion, hrecord ▸ hfails⟩

end BalancerImport
