import BalancerImport.Proofs.Check.Annotation
import BalancerImport.Proofs.Check.Batch

/-!
# What validation resolves

A record that can be executed after validation has all that is resolved for such a record, whatever
the cloud answers: the id of its balancer, and for a backend the target group as well.

* `checkBalancers_ok`, **`forall₂_screened`**: what the common check makes of each record;
* `Screened.Settled`: a record after the common check is ruled out, or well formed with its balancer
  noted; `settled_of_checkBalancers`: each record is;
* `VendorRules.Resolves`: rules that resolve what they do not rule out; both rules do;
* **`ready_of_validateRecords`**: what the records have that can be executed.
-/

namespace BalancerImport

open Importable Separable

variable {R : Type} [Importable R] [Separable R] [Ruled R] {ctx : Context} {cloud : Cloud}
  {rs : List R}

/-! ## The common check -/

/-- A record after the common check. If it does not survive it is ruled out; if it does, it was well
formed, and nothing is noted on it but its balancer and why it is ruled out. -/
structure Screened.Settled (s : Screened R) : Prop where
  dead : s.survives = false → isRejected s.record = true
  live : s.survives = true → ∃ id reasons r, Ruled.WellFormed (canonical r) ∧
    s.record = mapState (RecordState.rejectAll reasons) (withLbId id (refreshed r))

omit [Ruled R] in
theorem isRejected_reject (reason : String) (r : R) : isRejected (reject reason r) = true := by
  rw [isRejected, reject, state_mapState]
  rfl

omit [Ruled R] in
/-- A record that the rules of the vendor ruled out cannot be executed. -/
theorem not_isExecutable_finish {r : R} (h : isRejected r = true) :
    ¬ isExecutable (mapState RecordState.finish r) = true := by
  rw [isExecutable, state_mapState, RecordState.isExecutable, finish_pinned (beq_iff_eq.mp h)]
  decide

theorem settled_screenWith {r : R} (hr : Ruled.WellFormed (canonical r)) (lb : LoadBalancer) :
    (screenWith ctx lb (refreshed r)).Settled := by
  constructor
  · intro hdead
    rcases screenWith_cases ctx lb (refreshed r) with ⟨-, reason, hs⟩ | ⟨-, -, reason, hs⟩ | ⟨-, -, hs⟩
    · rw [hs]
      exact isRejected_reject _ _
    · exact nomatch hdead.symm.trans (congrArg Screened.survives hs)
    · exact nomatch hdead.symm.trans (congrArg Screened.survives hs)
  · intro hlive
    obtain ⟨-, reasons, hrecord⟩ := screenWith_survives hlive
    exact ⟨lb.id, reasons, r, hr, hrecord⟩

omit [Separable R] [Ruled R] in
/-- What the common check makes of each record: one that is ruled out goes no further, and for
another one the cloud could be reached and a balancer was found. -/
theorem checkBalancers_ok {screened : List (Screened R)}
    (h : checkBalancers ctx cloud rs = .ok screened) :
    List.Forall₂ (fun r s => (isRejected r = true ∧ s = { record := r, survives := false }) ∨
      (isRejected r = false ∧ cloud.outage = none ∧ ∃ lb, s = screenWith ctx lb r)) rs screened := by
  unfold checkBalancers at h
  split at h
  · rename_i hnone
    obtain rfl := Except.ok.inj h
    rw [List.forall₂_map_right_iff, List.forall₂_same]
    refine fun r hr => .inl ⟨?_, rfl⟩
    -- a record that is not ruled out would have its balancer asked for
    by_contra hlive
    have hwanted := mem_wantedBalancers hr (Bool.eq_false_iff.mpr hlive)
    rw [List.isEmpty_iff.mp hnone] at hwanted
    exact absurd hwanted List.not_mem_nil
  · split at h
    · exact nomatch h
    · rename_i found hfound
      have hcloud : cloud.outage = none := by
        unfold Cloud.balancers Cloud.answer at hfound
        split at hfound
        · exact nomatch hfound
        · assumption
      refine (screenAll_ok h).imp fun r s hs => ?_
      unfold screen at hs
      split at hs
      · rename_i hrejected
        exact .inl ⟨hrejected, (Except.ok.inj hs).symm⟩
      · rename_i hlive
        split at hs
        · exact nomatch hs
        · rename_i lb _
          exact .inr ⟨Bool.eq_false_iff.mpr hlive, hcloud, lb, (Except.ok.inj hs).symm⟩

omit [Ruled R] in
theorem prepared_eq (rs : List R) : prepared rs = rs.zipIdx.map fun x =>
    mapState (RecordState.rejectAll (objections rs x.2 x.1)) (refreshed x.1) := by
  refine List.ext_getElem? fun i => ?_
  rw [getElem?_prepared, List.getElem?_map, List.getElem?_zipIdx, Option.map_map, Nat.zero_add]
  rfl

/-- **What the common check makes of each record of a batch**: it goes no further if it is ruled out,
and otherwise it is a candidate. -/
theorem forall₂_screened {screened : List (Screened R)}
    (h : checkBalancers ctx cloud (prepared rs) = .ok screened) :
    List.Forall₂ (fun x s => (isRejected s.record = true ∧ s.survives = false) ∨
      (Candidate rs x.2 x.1 ∧ cloud.outage = none ∧ ∃ lb, s = screenWith ctx lb (refreshed x.1)))
      rs.zipIdx screened := by
  have hlisted : ∀ x ∈ rs.zipIdx, rs[x.2]? = some x.1 :=
    fun x hx => List.mem_zipIdx_iff_getElem?.mp hx
  have hstage := checkBalancers_ok h
  rw [prepared_eq, List.forall₂_map_left_iff] at hstage
  refine ((List.forall₂_and_left _ _).mpr ⟨hlisted, hstage⟩).imp ?_
  rintro ⟨r, i⟩ s ⟨hr, ⟨hrejected, rfl⟩ | ⟨hlive, hcloud, lb, rfl⟩⟩
  · exact .inl ⟨hrejected, rfl⟩
  · have hcandidate := (isRejected_prepared hr).mp hlive
    refine .inr ⟨hcandidate, hcloud, lb, ?_⟩
    rw [(objections_eq_nil hr).mpr hcandidate, mapState_rejectAll_nil, id_eq]

theorem settled_of_checkBalancers {screened : List (Screened R)}
    (h : checkBalancers ctx cloud (prepared rs) = .ok screened) : ∀ s ∈ screened, s.Settled := by
  intro s hs
  obtain ⟨x, -, ⟨hrejected, hdead⟩ | ⟨hcandidate, -, lb, rfl⟩⟩ :=
    exists_mem_of_forall₂ (forall₂_screened h) hs
  · exact ⟨fun _ => hrejected, fun hlive => nomatch hdead.symm.trans hlive⟩
  · exact settled_screenWith hcandidate.wellFormed lb

/-! ## The rules of the vendor -/

omit [Separable R] in
/-- Rules that resolve what makes a record `Ready`, unless they rule it out. -/
structure VendorRules.Resolves (rules : VendorRules R) (Ready : R → Prop) : Prop where
  check : ∀ (cloud : Cloud) (id : String) (reasons : List String) (r : R),
    Ruled.WellFormed (canonical r) → Asking.Keeps (fun v => isRejected v = true ∨ Ready v)
      (rules.check (Lookups.cached cloud)
        (mapState (RecordState.rejectAll reasons) (withLbId id (refreshed r))))
  mapState : ∀ change r, Ready r → Ready (mapState change r)

omit [Separable R] in
theorem keeps_ready {rules : VendorRules R} {Ready : R → Prop} (h : rules.Resolves Ready)
    (cloud : Cloud) {screened : List (Screened R)} (hsettled : ∀ s ∈ screened, s.Settled) :
    Asking.Keeps (fun vs => ∀ v ∈ vs, isRejected v = true ∨ Ready v)
      (checkSurvivors (rules.check (Lookups.cached cloud)) screened) := by
  refine keeps_all_checkSurvivors (fun s hlive hs => ?_) (fun s hdead hs => ?_) hsettled
  · obtain ⟨id, reasons, r, hr, hrecord⟩ := hs.live hlive
    rw [hrecord]
    exact h.check cloud id reasons r hr
  · exact .inl (hs.dead hdead)

/-- **A validated record that can be executed is ready.** -/
theorem ready_of_validateRecords {rules : VendorRules R} {Ready : R → Prop}
    (hrules : rules.Resolves Ready) {validated : List R}
    (h : (validateRecords rules ctx cloud rs).1 = .ok validated) :
    ∀ v ∈ validated, isExecutable v = true → Ready v := by
  have hprepared : markDuplicates (rs.map fun r => checkAlone (refreshed r)) = prepared rs := rfl
  simp only [validateRecords, hprepared] at h
  split at h
  · simp at h
  · rename_i screened hscreened
    obtain ⟨checked, hchecked, rfl⟩ := map_ok h
    have hready := keeps_ready hrules cloud (settled_of_checkBalancers hscreened) Caches.empty _
      checked (Prod.ext hchecked rfl)
    intro v hv hexecutable
    obtain ⟨k, hk, rfl⟩ := List.mem_map.mp hv
    refine hrules.mapState _ k ((hready k hk).resolve_left fun hrejected => ?_)
    exact not_isExecutable_finish hrejected hexecutable

/-! ## Both kinds of record -/

/-- The balancer of a listener was resolved. -/
def ListenerRecord.Ready (r : ListenerRecord) : Prop := r.lbId.isSome = true

/-- The balancer and the target group of a backend were resolved. -/
def BackendRecord.Ready (r : BackendRecord) : Prop :=
  r.lbId.isSome = true ∧ r.targetGroup.isSome = true

/-- The rules for listeners resolve no more than the common check. -/
theorem ListenerRules.resolves : listenerRules.Resolves ListenerRecord.Ready := by
  refine ⟨fun cloud id reasons r _ => ?_, fun _ _ h => h⟩
  have hready : ListenerRecord.Ready
      (mapState (RecordState.rejectAll reasons) (withLbId id (refreshed r))) := rfl
  refine (ListenerRules.keeps_check cloud _).mono fun v ⟨existing, hv⟩ => .inr ?_
  obtain ⟨-, s, rfl, -⟩ := compareAll_ok hv
  exact hready

namespace BackendRules

theorem ready_settleTarget {r : BackendRecord} (targets : List Target) (h : r.Ready) :
    (settleTarget targets r).Ready := by
  unfold settleTarget
  repeat' split
  all_goals exact h

theorem ready_settleInstance {r : BackendRecord} (found : Option Instance) (h : r.Ready) :
    (settleInstance found r).Ready := by
  cases found <;> exact h

/-- What validation notes on a record leaves its port alone. -/
theorem firstPort?_noted (change : RecordState → RecordState) (id : String) (s : RecordState)
    (r : BackendRecord) :
    BackendRecord.firstPort? (mapState change (withLbId id (withState s r))) = r.firstPort? := rfl

/-- A well formed backend has a port, so that the rules for backends look for its target group and
rule it out if there is none. -/
theorem resolves : backendRules.Resolves BackendRecord.Ready := by
  refine ⟨fun cloud id reasons r hr => ?_, fun _ _ h => h⟩
  have hid : (mapState (RecordState.rejectAll reasons) (withLbId id (refreshed r))).lbId =
      some id := rfl
  have hport : (mapState (RecordState.rejectAll reasons)
      (withLbId id (refreshed r))).firstPort? ≠ none := by
    obtain ⟨port, hports, -⟩ := BackendRecord.WellFormed.port hr
    rw [refreshed_eq, firstPort?_noted, BackendRecord.firstPort?, hports]
    exact Option.some_ne_none port
  generalize mapState (RecordState.rejectAll reasons) (withLbId id (refreshed r)) = p at hid hport
  have htarget : ∀ group targets,
      (settleTarget targets { p with targetGroup := some group }).Ready := by
    intro group targets
    exact ready_settleTarget targets ⟨by rw [hid]; rfl, rfl⟩
  refine (keeps_check cloud p).mono fun v hv => ?_
  cases hv with
  | portless hnone => exact absurd hnone hport
  | rejected reason => exact .inl (isRejected_reject _ _)
  | settled group targets => exact .inr (htarget group targets)
  | hosted group targets found => exact .inr (ready_settleInstance found (htarget group targets))

end BackendRules

end BalancerImport
