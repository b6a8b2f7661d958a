import BalancerImport.Proofs.Check.Annotation
import BalancerImport.Proofs.Check.Backends
import BalancerImport.Proofs.Check.Listeners

/-!
# Validation explains itself

A validated record has an outcome, it asks for what it asked for before, and it carries messages if
and only if it is ruled out. No stage sets the one without the other, or lets a record off again.

* `RecordState.Explained`: a state with messages if and only if it is ruled out; the steps between
  states keep it;
* `Lasting`: what the common steps leave true of records; `lasting_markDuplicates`,
  `lasting_checkBalancers`, `lasting_validateRecords`: the stages;
* `VendorRules.Explaining`: rules that keep states explained; both rules do;
* `Annotated`: a record and what validation made of it;
* **`validateRecords_annotated`**: both kinds of record.
-/

namespace BalancerImport

open Importable Separable

/-! ## States -/

namespace RecordState

variable {s : RecordState}

/-- A state with messages if and only if it is ruled out. -/
def Explained (s : RecordState) : Prop := s.status = .notExecutable ↔ s.messages ≠ []

theorem explained_initial : Explained initial := by simp [Explained, initial]

theorem explained_reject (reason : String) (s : RecordState) : Explained (reject reason s) := by
  simp [Explained, reject]

theorem Explained.rejectAll (h : Explained s) (reasons : List String) :
    Explained (rejectAll reasons s) := by
  rcases List.eq_nil_or_concat reasons with rfl | ⟨reasons, reason, rfl⟩
  · exact h
  · rw [List.concat_eq_append, rejectAll_concat]
    exact explained_reject _ _

theorem Explained.markExisting (h : Explained s) : Explained s.markExisting := by
  unfold RecordState.markExisting
  split
  · exact h
  · rename_i hlive
    have hnone : s.messages = [] := not_not.mp (mt h.mpr hlive)
    simp [Explained, hnone]

theorem Explained.finish (h : Explained s) : Explained s.finish := by
  unfold RecordState.finish
  split
  · rename_i hopen
    have hnone : s.messages = [] := not_not.mp (mt h.mpr (by simp [hopen]))
    simp [Explained, hnone]
  · exact h

theorem isTerminal_finish (s : RecordState) : s.finish.status.isTerminal = true := by
  unfold RecordState.finish
  split
  · rfl
  · rename_i hdone
    simpa [Status.isTerminal] using hdone

end RecordState

/-! ## The stages -/

section

variable {R : Type} [Importable R]

/-- What stays true of records that are ruled out, or whose balancer is noted. -/
structure Lasting (P : R → Prop) : Prop where
  reject : ∀ reason r, P r → P (reject reason r)
  withLbId : ∀ id r, P r → P (withLbId id r)

variable {P : R → Prop} {ctx : Context} {cloud : Cloud}

theorem Lasting.modify (hP : Lasting P) (reason : String) (i : Nat) {rs : List R}
    (h : ∀ r ∈ rs, P r) : ∀ r ∈ rs.modify i (Importable.reject reason), P r := by
  intro r hr
  obtain ⟨j, hj⟩ := List.mem_iff_getElem?.mp hr
  rw [List.getElem?_modify] at hj
  obtain ⟨r₀, hr₀, rfl⟩ := Option.map_eq_some_iff.mp hj
  have hbefore : P r₀ := h r₀ (List.mem_of_getElem? hr₀)
  split
  · exact hP.reject reason r₀ hbefore
  · exact hbefore

theorem lasting_markFrom (hP : Lasting P) : ∀ (index : Nat) (keys : List String)
    (seen : List (String × Nat)) {rs : List R}, (∀ r ∈ rs, P r) →
      ∀ r ∈ markFrom index keys seen rs, P r
  | _, [], _, _, h => h
  | index, key :: keys, seen, rs, h => by
    have hpairs : ∀ (earlier : List Nat) (rs : List R), (∀ r ∈ rs, P r) →
        ∀ r ∈ earlier.foldl (fun rs earlier => markPair earlier index rs) rs, P r := by
      intro earlier
      induction earlier with
      | nil => exact fun _ h => h
      | cons e earlier ih => exact fun rs h => ih _ (hP.modify _ _ (hP.modify _ _ h))
    rw [markFrom]
    exact lasting_markFrom hP _ _ _ (hpairs _ rs h)

theorem lasting_markDuplicates (hP : Lasting P) {rs : List R} (h : ∀ r ∈ rs, P r) :
    ∀ r ∈ markDuplicates rs, P r := lasting_markFrom hP _ _ _ h

theorem lasting_screenWith (hP : Lasting P) (lb : LoadBalancer) {r : R} (h : P r) :
    P (screenWith ctx lb r).record := by
  have hnoted : P (Importable.withLbId lb.id r) := hP.withLbId lb.id r h
  rcases screenWith_cases ctx lb r with ⟨-, _, hs⟩ | ⟨-, -, _, hs⟩ | ⟨-, -, hs⟩
  · rw [hs]
    exact hP.reject _ _ hnoted
  · rw [hs]
    exact hP.reject _ _ hnoted
  · rw [hs]
    exact hnoted

theorem lasting_screen (hP : Lasting P) {found : List LoadBalancer} {r : R} {s : Screened R}
    (hr : P r) (h : screen ctx found r = .ok s) : P s.record := by
  unfold screen at h
  split at h
  · obtain rfl := Except.ok.inj h
    exact hr
  · split at h
    · exact nomatch h
    · obtain rfl := Except.ok.inj h
      exact lasting_screenWith hP _ hr

theorem lasting_checkBalancers (hP : Lasting P) {rs : List R} (hrs : ∀ r ∈ rs, P r)
    {screened : List (Screened R)} (h : checkBalancers ctx cloud rs = .ok screened) :
    ∀ s ∈ screened, P s.record := by
  intro s hs
  unfold checkBalancers at h
  split at h
  · obtain rfl := Except.ok.inj h
    obtain ⟨r, hr, rfl⟩ := List.mem_map.mp hs
    exact hrs r hr
  · split at h
    · exact nomatch h
    · obtain ⟨r, hr, hscreen⟩ := exists_mem_of_forall₂ (screenAll_ok h) hs
      exact lasting_screen hP (hrs r hr) hscreen

/-- **What every stage keeps is true of all records before their validation ends.** -/
theorem lasting_validateRecords (hP : Lasting P) {rules : VendorRules R}
    (hrules : ∀ r, P r → Asking.Keeps P (rules.check (Lookups.cached cloud) r))
    {rs validated : List R}
    (hstart : ∀ r ∈ rs, P (checkAlone (refreshed r)))
    (h : (validateRecords rules ctx cloud rs).1 = .ok validated) :
    ∃ checked : List R, validated = checked.map (mapState RecordState.finish) ∧
      ∀ r ∈ checked, P r := by
  simp only [validateRecords] at h
  split at h
  · simp at h
  · rename_i screened hscreened
    obtain ⟨checked, hchecked, rfl⟩ := map_ok h
    have hnoted : ∀ r ∈ rs.map fun r => checkAlone (refreshed r), P r :=
      List.forall_mem_map.mpr hstart
    have hscreen := lasting_checkBalancers hP (lasting_markDuplicates hP hnoted) hscreened
    have hkeeps : Asking.Keeps (fun rs => ∀ r ∈ rs, P r)
        (checkSurvivors (rules.check (Lookups.cached cloud)) screened) :=
      keeps_all_checkSurvivors (fun s _ hs => hrules s.record hs) (fun s _ hs => hs) hscreen
    exact ⟨checked, rfl, hkeeps Caches.empty _ checked (Prod.ext hchecked rfl)⟩

end

/-! ## The rules of the vendor -/

/-- Rules that keep the states of records explained. -/
def VendorRules.Explaining {R : Type} [Importable R] (rules : VendorRules R) : Prop :=
  ∀ (cloud : Cloud) (r : R), (state r).Explained →
    Asking.Keeps (fun s => (state s).Explained) (rules.check (Lookups.cached cloud) r)

namespace ListenerRules

theorem explained_compare {r r' : ListenerRecord} {l : Listener} (h : r.state.Explained)
    (hr : compare r l = .ok r') : r'.state.Explained := by
  have hsni : (if l.sni then r.state.markExisting.reject
      s!"el listener {l.cloudId} del puerto {l.port} tiene SNI activado"
      else r.state.markExisting).Explained := by
    split
    · exact RecordState.explained_reject _ _
    · exact h.markExisting
  unfold compare at hr
  split at hr
  · obtain rfl := Except.ok.inj hr
    exact h
  · simp only at hr
    split at hr
    · obtain rfl := Except.ok.inj hr
      exact RecordState.explained_reject _ _
    · split at hr
      · obtain rfl := Except.ok.inj hr
        exact hsni
      · split at hr
        · exact nomatch hr
        · obtain rfl := Except.ok.inj hr
          exact hsni.rejectAll _

theorem explained_compareAll : ∀ {ls : List Listener} {r r' : ListenerRecord}, r.state.Explained →
    compareAll r ls = .ok r' → r'.state.Explained
  | [], _, _, h, hr => by
    obtain rfl := Except.ok.inj hr
    exact h
  | l :: ls, r, r', h, hr => by
    unfold compareAll at hr
    split at hr
    · exact nomatch hr
    · rename_i hl
      exact explained_compareAll (explained_compare h hl) hr

theorem explaining : listenerRules.Explaining := fun cloud r h =>
  (keeps_check cloud r).mono fun _ ⟨_, hv⟩ => explained_compareAll h hv

end ListenerRules

namespace BackendRules

theorem explained_settleTarget (targets : List Target) {r : BackendRecord} (h : r.state.Explained) :
    (settleTarget targets r).state.Explained := by
  unfold settleTarget
  split
  · exact h
  · split
    · exact h.markExisting
    · exact RecordState.explained_reject _ _

theorem explained_settleInstance (found : Option Instance) {r : BackendRecord}
    (h : r.state.Explained) : (settleInstance found r).state.Explained := by
  cases found with
  | none => exact RecordState.explained_reject _ _
  | some i => exact h

theorem explaining : backendRules.Explaining := by
  refine fun cloud r h => (keeps_check cloud r).mono fun v hv => ?_
  cases hv with
  | portless => exact h
  | rejected reason => exact RecordState.explained_reject _ _
  | settled group targets => exact explained_settleTarget _ h
  | hosted group targets found => exact explained_settleInstance _ (explained_settleTarget _ h)

end BackendRules

/-! ## The whole validation -/

section

variable {R : Type} [Importable R] [Separable R]

/-- A record and what validation made of it: it asks for the same, in canonical form; it has an
outcome; and it carries messages if and only if it is ruled out. -/
structure Annotated (r v : R) : Prop where
  request : bare v = canonical (bare r)
  terminal : (state v).status.isTerminal = true
  explained : (state v).Explained

/-- Records of a validated batch, each in its place. -/
theorem forall₂_annotated {rules : VendorRules R} {ctx : Context} {cloud : Cloud}
    (hlasting : Lasting fun r : R => (state r).Explained) (hannotating : rules.Annotating)
    (hexplaining : rules.Explaining) {rs validated : List R}
    (h : (validateRecords rules ctx cloud rs).1 = .ok validated) :
    List.Forall₂ Annotated rs validated := by
  have hrequests : List.Forall₂ (fun r v => bare v = canonical (bare r)) rs validated := by
    have hbare := map_bare_validateRecords hannotating h
    rw [← List.forall₂_eq_eq_eq, List.forall₂_map_left_iff, List.forall₂_map_right_iff] at hbare
    exact hbare.flip
  have hstart : ∀ r ∈ rs, (state (checkAlone (refreshed r))).Explained := fun r _ => by
    rw [checkAlone, state_mapState, state_refreshed]
    exact RecordState.explained_initial.rejectAll _
  obtain ⟨checked, rfl, hchecked⟩ :=
    lasting_validateRecords hlasting (hexplaining cloud) hstart h
  have hdone : ∀ v ∈ checked.map (mapState RecordState.finish),
      (state v).status.isTerminal = true ∧ (state v).Explained := by
    refine List.forall_mem_map.mpr fun r hr => ?_
    rw [state_mapState]
    exact ⟨RecordState.isTerminal_finish _, (hchecked r hr).finish⟩
  have hall := ((List.forall₂_and_left _ _).mpr ⟨hdone, hrequests.flip⟩).flip
  exact hall.imp fun r v ⟨⟨hterminal, hexplained⟩, hrequest⟩ => ⟨hrequest, hterminal, hexplained⟩

end

/-- **Validation that succeeds annotates each record of a batch, whatever its state was**: it has an
outcome, it asks for what it asked for before, and there are messages on it if and only if it is
ruled out. -/
theorem validateRecords_annotated (ctx : Context) (cloud : Cloud) :
    (∀ rs validated : List ListenerRecord,
      (validateRecords listenerRules ctx cloud rs).1 = .ok validated →
        List.Forall₂ Annotated rs validated) ∧
    ∀ rs validated : List BackendRecord,
      (validateRecords backendRules ctx cloud rs).1 = .ok validated →
        List.Forall₂ Annotated rs validated := by
  refine ⟨fun _ _ => forall₂_annotated ?_ ListenerRules.annotating ListenerRules.explaining,
    fun _ _ => forall₂_annotated ?_ BackendRules.annotating BackendRules.explaining⟩
  · exact ⟨fun _ _ _ => RecordState.explained_reject _ _, fun _ _ h => h⟩
  · exact ⟨fun _ _ _ => RecordState.explained_reject _ _, fun _ _ h => h⟩

/-- A state that some earlier validation might have left, which says the contrary of what is so. -/
def staleState (ruledOut : Bool) : RecordState :=
  if ruledOut then ⟨.notExecutable, []⟩ else ⟨.executable, ["duplicado con la línea 9"]⟩

/-- Batches with stale states, of which one record each is ruled out, and has a message. -/
theorem validateRecords_annotated_stale :
    (∃ validated, (validateRecords listenerRules servingContext servingCloud
        (servingRecords.map (mapState fun _ => staleState true))).1 = .ok validated ∧
      (validated.map fun v => v.state.messages.length) = [0, 0, 1] ∧
      List.Forall₂ Annotated (servingRecords.map (mapState fun _ => staleState true)) validated) ∧
    ∃ validated, (validateRecords backendRules bindingContext bindingCloud
        (bindingRecords.map (mapState fun _ => staleState false))).1 = .ok validated ∧
      (validated.map fun v => v.state.messages.length) = [0, 0, 1] ∧
      List.Forall₂ Annotated (bindingRecords.map (mapState fun _ => staleState false))
        validated := by
  obtain ⟨hlisteners, -⟩ := validateRecords_annotated servingContext servingCloud
  obtain ⟨-, hbackends⟩ := validateRecords_annotated bindingContext bindingCloud
  have hserving : ((validateRecords listenerRules servingContext servingCloud
      (servingRecords.map (mapState fun _ => staleState true))).1.map fun validated =>
        validated.map fun v => v.state.messages.length) = .ok [0, 0, 1] := by decide +kernel
  have hbinding : ((validateRecords backendRules bindingContext bindingCloud
      (bindingRecords.map (mapState fun _ => staleState false))).1.map fun validated =>
        validated.map fun v => v.state.messages.length) = .ok [0, 0, 1] := by decide +kernel
  obtain ⟨served, hserved, hcounts⟩ := map_ok hserving
  obtain ⟨bound, hbound, hcounts'⟩ := map_ok hbinding
  exact ⟨⟨served, hserved, hcounts, hlisteners _ _ hserved⟩,
    ⟨bound, hbound, hcounts', hbackends _ _ hbound⟩⟩

end BalancerImport
