import BalancerImport.Proofs.Check.Comparison
import BalancerImport.Proofs.Check.Duplicates
import BalancerImport.Proofs.Check.Length

/-!
# Validation only annotates

The stages of a validation note what they find out about a record. What the record asks for is the
same before and after, but for its words, which are put into canonical form.

* `Asking.Keeps`: checks whose results have a property, whatever the caches hold;
* `ListenerRules.keeps_check`, **`BackendRules.keeps_check`**: what the rules make of a record;
* `VendorRules.Annotating`: rules that change nothing a record asks for; both rules are such;
* **`map_bare_validateRecords`**: what the records of a validated batch ask for;
* `validateRecords_congr`: batches that are alike once they are refreshed.
-/

namespace BalancerImport

open Importable Separable

/-! ## Checks with a property -/

namespace Asking

variable {α β : Type} {P : α → Prop} {Q : β → Prop}

/-- All results of a check have a property. -/
def Keeps (P : α → Prop) (x : Asking α) : Prop :=
  ∀ (c c' : Caches) (a : α), x.run c = (.ok a, c') → P a

theorem Keeps.pure {a : α} (h : P a) : Keeps P (Pure.pure a) := by
  intro c c' b hrun
  obtain rfl := Except.ok.inj (congrArg Prod.fst hrun)
  exact h

theorem Keeps.throw (e : CheckError) : Keeps P (throw e) :=
  fun _ _ _ hrun => nomatch congrArg Prod.fst hrun

theorem Keeps.bind {x : Asking α} {f : α → Asking β} (hx : Keeps P x)
    (hf : ∀ a, P a → Keeps Q (f a)) : Keeps Q (x >>= f) := by
  intro c c' b hrun
  rw [run_bind] at hrun
  split at hrun
  · rename_i a c₁ ha
    exact hf a (hx _ _ _ ha) _ _ _ hrun
  · exact nomatch congrArg Prod.fst hrun

theorem Keeps.mono {P' : α → Prop} {x : Asking α} (h : Keeps P x) (hP : ∀ a, P a → P' a) :
    Keeps P' x := fun c c' a hrun => hP a (h c c' a hrun)

/-- Whatever a question is answered. -/
theorem Keeps.ask {x : Asking α} {f : α → Asking β} (hf : ∀ a, Keeps Q (f a)) : Keeps Q (x >>= f) :=
  Keeps.bind (P := fun _ => True) (fun _ _ _ _ => trivial) fun a _ => hf a

end Asking

/-! ## The rules of the vendor -/

section

variable {R : Type} [Importable R] [Separable R]

/-- Rules that change nothing a record asks for. -/
def VendorRules.Annotating (rules : VendorRules R) : Prop :=
  ∀ (cloud : Cloud) (r : R),
    Asking.Keeps (fun s => bare s = bare r) (rules.check (Lookups.cached cloud) r)

end

namespace ListenerRules

/-- The rules for listeners make of a record what its comparison with some listeners makes of it. -/
theorem keeps_check (cloud : Cloud) (r : ListenerRecord) :
    Asking.Keeps (fun v => ∃ existing, compareAll r existing = .ok v)
      (listenerRules.check (Lookups.cached cloud) r) := by
  simp only [listenerRules, check]
  split
  · exact Asking.Keeps.pure ⟨[], rfl⟩
  · refine Asking.Keeps.ask fun existing => ?_
    split
    · rename_i v hv
      exact Asking.Keeps.pure ⟨existing, hv⟩
    · exact Asking.Keeps.throw _

theorem annotating : listenerRules.Annotating := by
  refine fun cloud r => (keeps_check cloud r).mono fun v ⟨existing, hv⟩ => ?_
  obtain ⟨-, s, rfl, -⟩ := compareAll_ok hv
  rfl

end ListenerRules

namespace BackendRules

/-- What the rules for backends make of a record: nothing if it has no port; or they rule it out
before they know its target group; or they compare it with the backends of a target group, and note
its instance if it needs one. -/
inductive Outcome (r : BackendRecord) : BackendRecord → Prop where
  | portless (h : r.firstPort? = none) : Outcome r r
  | rejected (reason : String) : Outcome r (Importable.reject reason r)
  | settled (group : String) (targets : List Target) :
      Outcome r (settleTarget targets { r with targetGroup := some group })
  | hosted (group : String) (targets : List Target) (found : Option Instance) :
      Outcome r (settleInstance found (settleTarget targets { r with targetGroup := some group }))

/-- The rules have no other outcomes, whatever their questions are answered. -/
theorem keeps_check (cloud : Cloud) (r : BackendRecord) :
    Asking.Keeps (Outcome r) (backendRules.check (Lookups.cached cloud) r) := by
  simp only [backendRules, check]
  split
  · rename_i hnone
    exact Asking.Keeps.pure (.portless hnone)
  · refine Asking.Keeps.ask fun listeners => ?_
    split
    · exact Asking.Keeps.pure (.rejected _)
    · split
      · exact Asking.Keeps.pure (.rejected _)
      · refine Asking.Keeps.ask fun rule => ?_
        split
        · exact Asking.Keeps.pure (.rejected _)
        · split
          · exact Asking.Keeps.pure (.rejected _)
          · refine Asking.Keeps.ask fun targets => ?_
            split
            · exact Asking.Keeps.ask fun found => Asking.Keeps.pure (.hosted _ _ _)
            · exact Asking.Keeps.pure (.settled _ _)

theorem bare_settleTarget (targets : List Target) (r : BackendRecord) :
    bare (settleTarget targets r) = bare r := by
  unfold settleTarget
  repeat' split
  all_goals rfl

theorem bare_settleInstance (found : Option Instance) (r : BackendRecord) :
    bare (settleInstance found r) = bare r := by
  cases found <;> rfl

theorem annotating : backendRules.Annotating := by
  intro cloud r
  refine (keeps_check cloud r).mono fun v hv => ?_
  have htarget : ∀ group targets, bare (settleTarget targets { r with targetGroup := some group }) =
      bare r := fun group targets => bare_settleTarget targets { r with targetGroup := some group }
  cases hv with
  | portless => rfl
  | rejected reason => exact bare_mapState _ r
  | settled group targets => exact htarget group targets
  | hosted group targets found => exact (bare_settleInstance _ _).trans (htarget group targets)

end BackendRules

/-! ## The stages -/

variable {R : Type} [Importable R] [Separable R] {ctx : Context} {cloud : Cloud}

theorem map_bare_markDuplicates (rs : List R) :
    (markDuplicates rs).map (bare : R → R) = rs.map bare := by
  refine List.ext_getElem? fun i => ?_
  rw [List.getElem?_map, List.getElem?_map, getElem?_markDuplicates, Option.map_map]
  exact congrArg (rs[i]?.map ·) (funext (bare_mapState _))

theorem bare_screenWith (ctx : Context) (lb : LoadBalancer) (r : R) :
    bare (screenWith ctx lb r).record = bare r := by
  unfold screenWith
  simp only
  split
  · exact (bare_mapState _ _).trans (bare_withLbId _ _)
  · split
    · exact (bare_mapState _ _).trans (bare_withLbId _ _)
    · exact bare_withLbId _ _

theorem bare_screen {found : List LoadBalancer} {r : R} {s : Screened R}
    (h : screen ctx found r = .ok s) : bare s.record = bare r := by
  unfold screen at h
  split at h
  · obtain rfl := Except.ok.inj h
    rfl
  · split at h
    · exact nomatch h
    · obtain rfl := Except.ok.inj h
      exact bare_screenWith ctx _ r

theorem map_bare_screenAll {found : List LoadBalancer} :
    ∀ {rs : List R} {screened : List (Screened R)}, screenAll ctx found rs = .ok screened →
      screened.map (fun s => bare s.record) = rs.map bare
  | [], _, h => by
    obtain rfl := Except.ok.inj h
    rfl
  | r :: rs, screened, h => by
    unfold screenAll at h
    split at h
    · exact nomatch h
    · rename_i s hs
      obtain ⟨rest, hrest, rfl⟩ := map_ok h
      rw [List.map_cons, List.map_cons, bare_screen hs, map_bare_screenAll hrest]

theorem map_bare_checkBalancers {rs : List R} {screened : List (Screened R)}
    (h : checkBalancers ctx cloud rs = .ok screened) :
    screened.map (fun s => bare s.record) = rs.map bare := by
  unfold checkBalancers at h
  split at h
  · obtain rfl := Except.ok.inj h
    rw [List.map_map]
    rfl
  · split at h
    · exact nomatch h
    · exact map_bare_screenAll h

theorem keeps_checkSurvivors {check : R → Asking R}
    (hcheck : ∀ r, Asking.Keeps (fun s => bare s = bare r) (check r)) :
    ∀ screened : List (Screened R), Asking.Keeps
      (fun rs => rs.map bare = screened.map fun s => bare s.record) (checkSurvivors check screened)
  | [] => Asking.Keeps.pure rfl
  | s :: screened => by
    have hrest : ∀ r, bare r = bare s.record → Asking.Keeps
        (fun rs => rs.map bare = (s :: screened).map fun s => bare s.record)
        (checkSurvivors check screened >>= fun rs => pure (r :: rs)) := by
      refine fun r hr => (keeps_checkSurvivors hcheck screened).bind fun rs hrs => ?_
      exact Asking.Keeps.pure (by rw [List.map_cons, List.map_cons, hr, hrs])
    rw [checkSurvivors]
    split
    · exact (hcheck s.record).bind hrest
    · exact hrest s.record rfl

omit [Importable R] [Separable R] in
/-- What a check makes true of the survivors, and is true of the others, is true of all. -/
theorem keeps_all_checkSurvivors {P : R → Prop} {Q : Screened R → Prop} {check : R → Asking R}
    (hlive : ∀ s : Screened R, s.survives = true → Q s → Asking.Keeps P (check s.record))
    (hdead : ∀ s : Screened R, s.survives = false → Q s → P s.record) :
    ∀ {screened : List (Screened R)}, (∀ s ∈ screened, Q s) →
      Asking.Keeps (fun rs => ∀ r ∈ rs, P r) (checkSurvivors check screened)
  | [], _ => Asking.Keeps.pure nofun
  | s :: screened, h => by
    obtain ⟨hs, hrest⟩ := List.forall_mem_cons.mp h
    have hcons : ∀ r, P r → Asking.Keeps (fun rs => ∀ r ∈ rs, P r)
        (checkSurvivors check screened >>= fun rs => pure (r :: rs)) := by
      refine fun r hr => (keeps_all_checkSurvivors hlive hdead hrest).bind fun rs hrs => ?_
      exact Asking.Keeps.pure (List.forall_mem_cons.mpr ⟨hr, hrs⟩)
    rw [checkSurvivors]
    split
    · rename_i hsurvives
      exact (hlive s hsurvives hs).bind hcons
    · rename_i hsurvives
      exact hcons s.record (hdead s (Bool.eq_false_iff.mpr hsurvives) hs)

/-! ## The whole validation -/

variable {rules : VendorRules R}

/-- **What the records of a validated batch ask for is what they asked for before**, in canonical
form. -/
theorem map_bare_validateRecords (hrules : rules.Annotating) {rs validated : List R}
    (h : (validateRecords rules ctx cloud rs).1 = .ok validated) :
    validated.map bare = rs.map fun r => canonical (bare r) := by
  simp only [validateRecords] at h
  split at h
  · cases h
  · rename_i screened hscreened
    obtain ⟨checked, hchecked, rfl⟩ := map_ok h
    have hsurvivors := keeps_checkSurvivors (hrules cloud) screened Caches.empty _ checked
      (Prod.ext hchecked rfl)
    calc (checked.map (mapState RecordState.finish)).map bare
        = checked.map bare := by
          rw [List.map_map]
          exact List.map_congr_left fun r _ => bare_mapState _ r
      _ = screened.map fun s => bare s.record := hsurvivors
      _ = (rs.map fun r => checkAlone (refreshed r)).map bare := by
          rw [map_bare_checkBalancers hscreened, map_bare_markDuplicates]
      _ = rs.map fun r => canonical (bare r) := by
          rw [List.map_map]
          refine List.map_congr_left fun r _ => ?_
          exact (bare_mapState _ _).trans (bare_refreshed r)

omit [Separable R] in
/-- Validation looks at records only once they are refreshed. -/
theorem validateRecords_congr {rs rs' : List R}
    (h : rs.map refreshed = rs'.map refreshed) :
    validateRecords rules ctx cloud rs = validateRecords rules ctx cloud rs' := by
  have hnoted : (rs.map fun r => checkAlone (refreshed r)) =
      rs'.map fun r => checkAlone (refreshed r) := by
    simpa only [List.map_map, Function.comp_def] using congrArg (List.map checkAlone) h
  rw [validateRecords, validateRecords, hnoted]

end BalancerImport
