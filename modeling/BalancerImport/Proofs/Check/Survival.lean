import BalancerImport.Proofs.Check.Backends
import BalancerImport.Proofs.Check.Readiness

/-!
# Records that survive validation

Where a record came from that can be executed after validation, whatever the cloud is like: nothing
spoke against it before the cloud was asked, the cloud could be reached, and the rules of the vendor
checked it with caches that held answers of that cloud.

* `Asking.Yields`: checks that leave caches with the cloud's answers, and whose results have a
  property; `Lookups.yields_listeners` and the like: the questions;
* `yields_checkSurvivors`: what the rules make of the records that survive the common check;
* `VendorRules.Yielding`: rules whose results have a property; both rules are such, those for backends
  (`BackendRules.yielding`) with the instance that they note;
* **`executable_of_validateRecords`**, `asked_of_validateRecords`: a record that can be executed.
-/

namespace BalancerImport

open Importable Separable

/-! ## Checks with the cloud's answers -/

/-- The entries of the caches are answers of the cloud, except perhaps for rules, which are kept
without their balancer. -/
def Caches.Sound (cloud : Cloud) (c : Caches) : Prop := c.Faithful cloud fun _ => False

namespace Asking

variable {α β : Type} {cloud : Cloud} {P : α → Prop} {Q : β → Prop}

/-- A check that leaves sound caches as such, and whose results then have a property. -/
def Yields (cloud : Cloud) (P : α → Prop) (x : Asking α) : Prop :=
  ∀ c : Caches, c.Sound cloud → (x.run c).2.Sound cloud ∧ ∀ a, (x.run c).1 = .ok a → P a

theorem Yields.pure {a : α} (h : P a) : Yields cloud P (Pure.pure a) :=
  fun _ hc => ⟨hc, fun _ ha => Except.ok.inj ha ▸ h⟩

theorem Yields.bind {x : Asking α} {f : α → Asking β} (hx : Yields cloud P x)
    (hf : ∀ a, P a → Yields cloud Q (f a)) : Yields cloud Q (x >>= f) := by
  intro c hc
  obtain ⟨hc₁, hx⟩ := hx c hc
  rw [run_bind]
  cases hrun : x.run c with
  | mk answer c₁ =>
    rw [hrun] at hc₁ hx
    cases answer with
    | error e => exact ⟨hc₁, nofun⟩
    | ok a => exact hf a (hx a rfl) c₁ hc₁

theorem Yields.of_tracks {x : Asking α} {y : Except CheckError α}
    (h : Tracks cloud (fun _ => False) x y) : Yields cloud (fun a => y = .ok a) x := by
  intro c hc
  obtain ⟨hy, hc₁⟩ := h c hc
  exact ⟨hc₁, fun a ha => hy.symm.trans ha⟩

theorem Yields.mono {P' : α → Prop} {x : Asking α} (h : Yields cloud P x) (hP : ∀ a, P a → P' a) :
    Yields cloud P' x :=
  fun c hc => ⟨(h c hc).1, fun a ha => hP a ((h c hc).2 a ha)⟩

end Asking

namespace Lookups

open Asking

variable (cloud : Cloud)

theorem yields_listeners (balancer : String) (port : Nat) :
    Yields cloud (fun _ => True) ((cached cloud).listeners balancer port) :=
  (Yields.of_tracks (tracks_listeners cloud _ balancer port)).mono fun _ _ => trivial

theorem yields_rule (balancer listener domain url : String) :
    Yields cloud (fun _ => True) ((cached cloud).rule balancer listener domain url) :=
  fun _ hc => ⟨⟨hc.listeners, fun _ _ _ _ hfalse => hfalse.elim, hc.targets, hc.instances⟩,
    fun _ _ => trivial⟩

theorem yields_targets (group : String) :
    Yields cloud (fun _ => True) ((cached cloud).targets group) :=
  (Yields.of_tracks (tracks_targets cloud _ group)).mono fun _ _ => trivial

/-- The instance with an address is one of the cloud. -/
theorem yields_inst (hcloud : cloud.outage = none) (ip : String) :
    Yields cloud (fun found => found = cloud.snapshot.instances.find? fun i => i.privateV4.contains ip)
      ((cached cloud).inst ip) := by
  refine (Yields.of_tracks (tracks_inst cloud _ ip)).mono fun found hfound => ?_
  rw [direct_inst hcloud] at hfound
  exact (Except.ok.inj hfound).symm

end Lookups

/-! ## The survivors -/

section

variable {R : Type} {cloud : Cloud}

/-- What a check makes true of survivors, and is true of the others, is true of all. -/
theorem yields_checkSurvivors {α : Type} {check : R → Asking R} {A : α → Screened R → Prop}
    {P : α → R → Prop}
    (hlive : ∀ a s, A a s → s.survives = true → Asking.Yields cloud (P a) (check s.record))
    (hdead : ∀ a s, A a s → s.survives = false → P a s.record) {as : List α}
    {screened : List (Screened R)} (h : List.Forall₂ A as screened) :
    Asking.Yields cloud (List.Forall₂ P as) (checkSurvivors check screened) := by
  induction h with
  | nil => exact Asking.Yields.pure .nil
  | @cons a s as screened ha _ ih =>
    have hrest : ∀ r, P a r → Asking.Yields cloud (List.Forall₂ P (a :: as))
        (checkSurvivors check screened >>= fun rs => pure (r :: rs)) :=
      fun r hr => ih.bind fun rs hrs => Asking.Yields.pure (.cons hr hrs)
    rw [checkSurvivors]
    split
    · rename_i hsurvives
      exact (hlive a s ha hsurvives).bind hrest
    · rename_i hsurvives
      exact hrest s.record (hdead a s ha (Bool.eq_false_iff.mpr hsurvives))

end

/-! ## The whole validation -/

section

variable {R : Type} [Importable R] [Separable R] [Ruled R] {rules : VendorRules R} {ctx : Context}
  {cloud : Cloud} {rs validated : List R} {P : R → R → Prop}

/-- Rules that rule a record out or give it a property, if it is well formed and as the common check
leaves it. -/
def VendorRules.Yielding (rules : VendorRules R) (cloud : Cloud) (P : R → R → Prop) : Prop :=
  cloud.outage = none → ∀ (id : String) (reasons : List String) (r : R),
    Ruled.WellFormed (canonical r) → Asking.Yields cloud (fun v => isRejected v = true ∨ P r v)
      (rules.check (Lookups.cached cloud)
        (mapState (RecordState.rejectAll reasons) (withLbId id (refreshed r))))

/-- **A validated record that can be executed** was a candidate, and comes from the rules of the
vendor. -/
theorem executable_of_validateRecords (hrules : rules.Yielding cloud P)
    (h : (validateRecords rules ctx cloud rs).1 = .ok validated) {i : Nat} {v : R}
    (hv : validated[i]? = some v) (hexecutable : isExecutable v = true) :
    cloud.outage = none ∧ ∃ r checked, Candidate rs i r ∧ P r checked ∧
      v = mapState RecordState.finish checked := by
  have hprepared : markDuplicates (rs.map fun r => checkAlone (refreshed r)) = prepared rs := rfl
  simp only [validateRecords, hprepared] at h
  split at h
  · cases h
  · rename_i screened hscreened
    obtain ⟨checked, hchecked, rfl⟩ := map_ok h
    obtain ⟨k, hk, rfl⟩ := Option.map_eq_some_iff.mp ((List.getElem?_map ..).symm.trans hv)
    have hyields : Asking.Yields cloud (List.Forall₂ (fun x k => isRejected k = true ∨
        (cloud.outage = none ∧ Candidate rs x.2 x.1 ∧ P x.1 k)) rs.zipIdx)
        (checkSurvivors (rules.check (Lookups.cached cloud)) screened) := by
      refine yields_checkSurvivors ?_ ?_ (forall₂_screened hscreened)
      · rintro ⟨r, i⟩ s (⟨-, hdead⟩ | ⟨hcandidate, hcloud, lb, rfl⟩) hlive
        · exact absurd (hdead.symm.trans hlive) Bool.false_ne_true
        · obtain ⟨-, reasons, hrecord⟩ := screenWith_survives hlive
          rw [hrecord]
          exact (hrules hcloud lb.id reasons r hcandidate.wellFormed).mono
            fun k hk => hk.imp_right fun hP => ⟨hcloud, hcandidate, hP⟩
      · rintro ⟨r, i⟩ s (⟨hrejected, -⟩ | ⟨hcandidate, -, lb, rfl⟩) hdead
        · exact .inl hrejected
        · exact .inl ((settled_screenWith hcandidate.wellFormed lb).dead hdead)
    have hall := (hyields Caches.empty (Caches.faithful_empty cloud _)).2 checked hchecked
    have hlt : i < rs.length := by
      rw [← List.length_zipIdx, hall.length_eq]
      exact (List.getElem?_eq_some_iff.mp hk).1
    have hr : rs.zipIdx[i]? = some (rs[i], i) := by
      rw [List.getElem?_zipIdx, List.getElem?_eq_getElem hlt, Option.map_some, Nat.zero_add]
    rcases forall₂_getElem? hall hr hk with hrejected | ⟨hcloud, hcandidate, hP⟩
    · exact absurd hexecutable (not_isExecutable_finish hrejected)
    · exact ⟨hcloud, rs[i], k, hcandidate, hP, rfl⟩

/-- What it asks for is what was asked for, in canonical form. -/
theorem asked_of_validateRecords (hrules : rules.Yielding cloud P)
    (hannotating : rules.Annotating)
    (h : (validateRecords rules ctx cloud rs).1 = .ok validated) {i : Nat} {v : R}
    (hv : validated[i]? = some v) (hexecutable : isExecutable v = true) :
    ∃ r checked, Candidate rs i r ∧ bare v = bare (canonical r) ∧ P r checked ∧
      v = mapState RecordState.finish checked := by
  obtain ⟨-, r, checked, hcandidate, hP, hchecked⟩ :=
    executable_of_validateRecords hrules h hv hexecutable
  refine ⟨r, checked, hcandidate, ?_, hP, hchecked⟩
  have hbare := congrArg (·[i]?) (map_bare_validateRecords hannotating h)
  simp only [List.getElem?_map, hv, hcandidate.listed, Option.map_some] at hbare
  exact (Option.some.inj hbare).trans (bare_canonical r).symm

/-- It is well formed, if that is a matter of what it asks for. -/
theorem wellFormed_of_validateRecords (hrules : rules.Yielding cloud P)
    (hannotating : rules.Annotating)
    (hasked : ∀ r : R, Ruled.WellFormed (bare r) ↔ Ruled.WellFormed r)
    (h : (validateRecords rules ctx cloud rs).1 = .ok validated) :
    ∀ v ∈ validated, isExecutable v = true → Ruled.WellFormed v := by
  intro v hv hexecutable
  obtain ⟨i, hi⟩ := List.mem_iff_getElem?.mp hv
  obtain ⟨r, -, hcandidate, hbare, -⟩ := asked_of_validateRecords hrules hannotating h hi hexecutable
  rw [← hasked, hbare, hasked]
  exact hcandidate.wellFormed

end

/-! ## The rules of the vendor -/

/-- Of the rules for listeners nothing more is needed than that they leave the caches sound. -/
theorem ListenerRules.yielding (cloud : Cloud) :
    listenerRules.Yielding cloud fun _ _ => True :=
  fun _ _ _ _ _ => (Asking.Yields.of_tracks (tracks cloud _ _)).mono fun _ _ => .inr trivial

namespace BackendRules

variable {cloud : Cloud}

theorem inst_settleTarget (targets : List Target) (r : BackendRecord) :
    (settleTarget targets r).inst = r.inst := by
  unfold settleTarget
  repeat' split
  all_goals rfl

/-- The rules for backends rule a record out, or note the instance that hosts it. -/
theorem yields_check (hcloud : cloud.outage = none) {r : BackendRecord}
    (hport : r.firstPort? ≠ none) :
    Asking.Yields cloud (fun v => isRejected v = true ∨ Hosted cloud r v.inst)
      (backendRules.check (Lookups.cached cloud) r) := by
  have hreject : ∀ reason, Asking.Yields cloud
      (fun v => isRejected v = true ∨ Hosted cloud r v.inst) (pure (reject reason r)) :=
    fun reason => Asking.Yields.pure (.inl (isRejected_reject _ _))
  simp only [backendRules, check]
  split
  · rename_i hnone
    exact absurd hnone hport
  · refine (Lookups.yields_listeners cloud _ _).bind fun listeners _ => ?_
    split
    · exact hreject _
    · split
      · exact hreject _
      · refine (Lookups.yields_rule cloud _ _ _ _).bind fun rule _ => ?_
        split
        · exact hreject _
        · split
          · exact hreject _
          · rename_i group _
            refine (Lookups.yields_targets cloud _).bind fun targets _ => ?_
            -- comparing it with the backends of its group leaves the other fields alone
            have hbare := bare_settleTarget targets { r with targetGroup := some group }
            have hinst := inst_settleTarget targets { r with targetGroup := some group }
            generalize settleTarget targets { r with targetGroup := some group } = s at hbare hinst
            have hkind : s.kind? = r.kind? := (congrArg BackendRecord.kind? hbare :)
            have hip : s.ip = r.ip := (congrArg BackendRecord.ip hbare :)
            split
            · rename_i hcompute
              refine (Lookups.yields_inst cloud hcloud s.ip).bind fun found hfound => ?_
              refine Asking.Yields.pure ?_
              cases found with
              | none => exact .inl (isRejected_reject _ _)
              | some i =>
                rw [hip] at hfound
                exact .inr ⟨fun _ => ⟨rfl, hfound⟩, fun hother => absurd (hkind ▸ hcompute) hother⟩
            · rename_i hother
              exact Asking.Yields.pure (.inr ⟨fun hcompute => absurd (hkind.trans hcompute) hother,
                fun _ => hinst⟩)

/-- On a record that the rules for backends do not rule out there is the instance that hosts it. -/
theorem yielding (cloud : Cloud) :
    backendRules.Yielding cloud fun r v => Hosted cloud r.canonical v.inst := by
  intro hcloud id reasons r hr
  have hrecord : mapState (RecordState.rejectAll reasons) (withLbId id (refreshed r)) =
      { r.canonical with state := RecordState.initial.rejectAll reasons, lbId := some id } := by
    simp only [mapState, withLbId_refreshed, Importable.withState, Importable.state]
  have hwell : r.canonical.WellFormed := hr
  rw [hrecord]
  change Asking.Yields cloud
    (fun v : BackendRecord => isRejected v = true ∨ Hosted cloud r.canonical v.inst) _
  generalize r.canonical = c at hwell
  obtain ⟨port, hports, -⟩ := hwell.port
  have hport : BackendRecord.firstPort?
      { c with state := RecordState.initial.rejectAll reasons, lbId := some id } ≠ none := by
    rw [BackendRecord.firstPort?, hports]
    exact Option.some_ne_none port
  exact (yields_check hcloud hport).mono fun v hv => hv.imp_right hosted_noted.mp

end BackendRules

end BalancerImport
