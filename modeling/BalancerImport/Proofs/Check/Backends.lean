import BalancerImport.Proofs.Check.Resolution

/-!
# The verdicts on backend records

What a validation says about backends to be bound: when it fails, and what it makes of each record
when it does not. Listeners with one id have to belong to one balancer, because rules are looked up
through a cache that keeps them by listener.

* `Resolution`, `BackendRecord.Resolves`: what a candidate is resolved to;
* `BackendRecord.Bindable`, `BackendRecord.Bound`: what the cloud has to be like for a record to be
  executed, and for it to be superfluous;
* `BackendVerdicts`: all verdicts on a batch;
* **`validateRecords_backends`**: those are the verdicts of a validation, as on
  `bindingRecords` (`validateRecords_backends_binding`).
-/

namespace BalancerImport

open Importable Separable

/-- What a record is resolved to: its balancer, its listener and rule, the target group of the rule,
and the instance that is noted for it. -/
structure Resolution where
  lb : LoadBalancer
  listener : Listener
  rule : UrlRule
  group : String
  inst : Option Instance

/-- A record as it is once it is resolved, in some state. -/
def Resolution.note (x : Resolution) (s : RecordState) (r : BackendRecord) : BackendRecord :=
  { r.canonical with
    state := s, lbId := some x.lb.id, targetGroup := some x.group, inst := x.inst }

namespace BackendRecord

/-- A candidate is resolved: its balancer admits it, the answers about it lead to a target group, and
its instance, if it is a compute instance, is found. -/
structure Resolves (ctx : Context) (cloud : Cloud) (rs : List BackendRecord) (i : Nat)
    (r : BackendRecord) (x : Resolution) : Prop where
  candidate : Candidate rs i r
  admitted : Admits ctx cloud x.lb r
  found : BackendRules.Found cloud r.canonical x.listener x.rule x.group
  hosted : BackendRules.Hosted cloud r.canonical x.inst

/-- A candidate that is resolved to a target group without a backend at its address and port. -/
def Bindable (ctx : Context) (cloud : Cloud) (rs : List BackendRecord) (i : Nat)
    (r : BackendRecord) : Prop :=
  ∃ x, Resolves ctx cloud rs i r x ∧ cloud.boundAs? x.group r.canonical = none

/-- A candidate that is resolved to a target group whose first backend at its address and port has
its weight. -/
def Bound (ctx : Context) (cloud : Cloud) (rs : List BackendRecord) (i : Nat)
    (r : BackendRecord) : Prop :=
  ∃ x, Resolves ctx cloud rs i r x ∧
    ∃ t, cloud.boundAs? x.group r.canonical = some t ∧ r.weight = some (t.weight : Int)

variable {ctx : Context} {cloud : Cloud} {rs : List BackendRecord} {i : Nat} {r : BackendRecord}

/-- A record is resolved to one thing at most. -/
theorem Resolves.unique {x y : Resolution} (hx : Resolves ctx cloud rs i r x)
    (hy : Resolves ctx cloud rs i r y) : x = y := by
  obtain ⟨lb, l, rule, group, inst⟩ := x
  obtain ⟨lb', l', rule', group', inst'⟩ := y
  obtain rfl := Option.some.inj (hx.admitted.found.symm.trans hy.admitted.found)
  obtain rfl := Option.some.inj (hx.found.listener.symm.trans hy.found.listener)
  obtain rfl := Option.some.inj (hx.found.urlRule.symm.trans hy.found.urlRule)
  obtain rfl := Option.some.inj (hx.found.targetGroup.symm.trans hy.found.targetGroup)
  obtain rfl : inst = inst' := by
    by_cases hcompute : r.canonical.kind? = some .cvm
    · exact (hx.hosted.compute hcompute).2.trans (hy.hosted.compute hcompute).2.symm
    · exact (hx.hosted.other hcompute).trans (hy.hosted.other hcompute).symm
  rfl

end BackendRecord

/-! ## The rules of the vendor -/

namespace BackendRules

variable {cloud : Cloud} {c : BackendRecord} {s : RecordState} {id : Option String}

theorem found_noted {l : Listener} {rule : UrlRule} {group : String} :
    Found cloud { c with state := s, lbId := id } l rule group ↔ Found cloud c l rule group :=
  ⟨fun h => ⟨h.1, h.2, h.3, h.4⟩, fun h => ⟨h.1, h.2, h.3, h.4⟩⟩

theorem hosted_noted {inst : Option Instance} :
    Hosted cloud { c with state := s, lbId := id } inst ↔ Hosted cloud c inst :=
  ⟨fun h => ⟨h.1, h.2⟩, fun h => ⟨h.1, h.2⟩⟩

/-- A record as the rules get it. -/
theorem withLbId_refreshed (id : String) (r : BackendRecord) :
    withLbId id (refreshed r) = { r.canonical with state := .initial, lbId := some id } := by
  simp only [refreshed_eq, Importable.withState, Importable.withLbId, Importable.canonical]

/-- What the rules make of a record with a port about which nothing is known but its balancer. -/
theorem check_initial (hcloud : cloud.outage = none) (hport : c.firstPort? ≠ none) {checked}
    (h : check (Lookups.direct cloud) { c with state := .initial, lbId := id } = .ok checked) :
    (∃ l rule group inst s, Found cloud c l rule group ∧ Hosted cloud c inst ∧
      Weighed cloud group { c with state := .initial, lbId := id } s ∧
      checked = { c with state := s, lbId := id, targetGroup := some group, inst := inst }) ∨
    (¬ ∃ l rule group inst, Found cloud c l rule group ∧ Hosted cloud c inst) ∧
      checked.state.status = .notExecutable := by
  rcases check_cases hcloud { c with state := .initial, lbId := id } with
    ⟨hnone, -⟩ | ⟨hlost, reason, hc⟩ | ⟨l, rule, group, hfound, hc⟩
  · exact absurd hnone hport
  · obtain rfl := Except.ok.inj (hc.symm.trans h)
    refine .inr ⟨fun ⟨l, rule, group, _, hfound, _⟩ => hlost ⟨l, rule, group, ?_⟩, rfl⟩
    exact found_noted.mpr hfound
  · obtain rfl := Except.ok.inj (hc.symm.trans h)
    rcases settled_cases cloud group { c with state := .initial, lbId := id } with
      ⟨inst, s, hhosted, hs, heq⟩ | ⟨hlost, hstatus⟩
    · exact .inl ⟨l, rule, group, inst, s, found_noted.mp hfound, hosted_noted.mp hhosted, hs, heq⟩
    · refine .inr ⟨fun ⟨_, _, _, inst, _, hhosted⟩ => hlost ⟨inst, ?_⟩, hstatus⟩
      exact hosted_noted.mpr hhosted

/-- The status in which a record that was compared with the backends of its target group ends up. -/
theorem Weighed.finish_cases {group : String}
    (h : Weighed cloud group { c with state := .initial, lbId := id } s) :
    cloud.boundAs? group c = none ∧ s.finish.status = .executable ∨
    (∃ t, cloud.boundAs? group c = some t ∧ c.weight = some (t.weight : Int)) ∧
      s.finish.status = .existing ∨
    (∃ t, cloud.boundAs? group c = some t ∧ c.weight ≠ some (t.weight : Int)) ∧
      s.finish.status = .notExecutable := by
  cases hbound : cloud.boundAs? group c with
  | none => exact .inl ⟨rfl, by rw [h.free hbound]; rfl⟩
  | some t =>
    by_cases hweight : c.weight = some (t.weight : Int)
    · exact .inr (.inl ⟨⟨t, rfl, hweight⟩, by rw [h.same t hbound hweight]; rfl⟩)
    · exact .inr (.inr ⟨⟨t, rfl, hweight⟩, finish_pinned (h.other t hbound hweight)⟩)

end BackendRules

/-! ## The verdicts -/

/-- The verdicts on a batch of backends. It fails where a balancer is not found, and for no other
reason; if it does not fail, each record is executable, existing, or neither, and on a record that is
resolved it is noted to what. -/
structure BackendVerdicts (ctx : Context) (cloud : Cloud) (rs : List BackendRecord)
    (answer : Except CheckError (List BackendRecord)) : Prop where
  unknown : (∃ cloudId, answer = .error (.unknownBalancer cloudId)) ↔ Unfound ctx cloud rs
  answered : ∀ {e}, answer = .error e → ∃ cloudId, e = .unknownBalancer cloudId
  verdicts : ∀ {validated}, answer = .ok validated →
    Verdicts (BackendRecord.Bindable ctx cloud rs) (BackendRecord.Bound ctx cloud rs) rs validated
  noted : ∀ {validated i r v x}, answer = .ok validated → rs[i]? = some r →
    validated[i]? = some v → BackendRecord.Resolves ctx cloud rs i r x → v = x.note v.state r

variable {ctx : Context} {cloud : Cloud} {rs validated : List BackendRecord}

/-- What becomes of a record: it is resolved and compared, or it is not resolved. -/
theorem backend_resolved (hcloud : cloud.outage = none) (hapart : cloud.ListenersApart)
    (h : (validateRecords backendRules ctx cloud rs).1 = .ok validated) {i : Nat}
    {r v : BackendRecord} (hr : rs[i]? = some r) (hv : validated[i]? = some v) :
    (∃ x s, BackendRecord.Resolves ctx cloud rs i r x ∧ v = x.note s.finish r ∧
      BackendRules.Weighed cloud x.group
        { r.canonical with state := .initial, lbId := some x.lb.id } s) ∨
    (¬ ∃ x, BackendRecord.Resolves ctx cloud rs i r x) ∧ v.state.status = .notExecutable := by
  have hjudged := judged_of_validateRecords hcloud (BackendRules.transparent hapart) h hr hv
  rcases hjudged.settled (BackendRules.pinning hcloud) with
    ⟨hstatus, hnot⟩ | ⟨hcandidate, lb, hadmits, checked, hchecked, rfl⟩
  · exact .inr ⟨fun ⟨x, hx⟩ => hnot ⟨hx.candidate, x.lb, hx.admitted⟩, hstatus⟩
  · rw [BackendRules.withLbId_refreshed] at hchecked
    have hwell : r.canonical.WellFormed := hcandidate.wellFormed
    have hport : r.canonical.firstPort? ≠ none := by
      obtain ⟨port, hport, -⟩ := hwell.port
      rw [BackendRecord.firstPort?, hport]
      simp
    rcases BackendRules.check_initial hcloud hport hchecked with
      ⟨l, rule, group, inst, s, hfound, hhosted, hs, rfl⟩ | ⟨hlost, hstatus⟩
    · refine .inl ⟨⟨lb, l, rule, group, inst⟩, s, ⟨hcandidate, hadmits, hfound, hhosted⟩, ?_, hs⟩
      simp only [mapState, Importable.state, Importable.withState, Resolution.note]
    · refine .inr ⟨fun ⟨x, hx⟩ => hlost ⟨_, _, _, _, hx.found, hx.hosted⟩, ?_⟩
      exact finish_pinned hstatus

/-- A record gets exactly one verdict. -/
theorem backend_verdict (hcloud : cloud.outage = none) (hapart : cloud.ListenersApart)
    (h : (validateRecords backendRules ctx cloud rs).1 = .ok validated) {i : Nat}
    {r v : BackendRecord} (hr : rs[i]? = some r) (hv : validated[i]? = some v) :
    Verdict (BackendRecord.Bindable ctx cloud rs i r) (BackendRecord.Bound ctx cloud rs i r)
      v.state.status := by
  rcases backend_resolved hcloud hapart h hr hv with ⟨x, s, hx, rfl, hs⟩ | ⟨hnone, hstatus⟩
  · have hweight : r.canonical.weight = r.weight := by simp only [BackendRecord.canonical]
    have hbindable : BackendRecord.Bindable ctx cloud rs i r ↔
        cloud.boundAs? x.group r.canonical = none :=
      ⟨fun ⟨y, hy, hfree⟩ => hx.unique hy ▸ hfree, fun hfree => ⟨x, hx, hfree⟩⟩
    have hbound : BackendRecord.Bound ctx cloud rs i r ↔ ∃ t,
        cloud.boundAs? x.group r.canonical = some t ∧ r.weight = some (t.weight : Int) :=
      ⟨fun ⟨y, hy, hsame⟩ => hx.unique hy ▸ hsame, fun hsame => ⟨x, hx, hsame⟩⟩
    rw [hbindable, hbound, show (x.note s.finish r).state = s.finish from rfl]
    rcases hs.finish_cases with ⟨hfree, hs⟩ | ⟨⟨t, ht, hsame⟩, hs⟩ | ⟨⟨t, ht, hother⟩, hs⟩
    · rw [hs]
      exact .executable hfree (by simp [hfree])
    · rw [hs]
      exact .existing (by simp [ht]) ⟨t, ht, hweight ▸ hsame⟩
    · rw [hs]
      exact .notExecutable (by simp [ht]) (by simpa [ht] using hweight ▸ hother)
  · rw [hstatus]
    exact .notExecutable (fun ⟨x, hx, _⟩ => hnone ⟨x, hx⟩) fun ⟨x, hx, _⟩ => hnone ⟨x, hx⟩

/-- Why a validation fails. -/
theorem backend_error (hcloud : cloud.outage = none) (hapart : cloud.ListenersApart) {e : CheckError}
    (h : (validateRecords backendRules ctx cloud rs).1 = .error e) :
    Unfound ctx cloud rs ∧ ∃ cloudId, e = .unknownBalancer cloudId := by
  rcases validateRecords_error hcloud (BackendRules.transparent hapart) h with
    hunfound | ⟨-, i, r, lb, reasons, -, -, -, hfails⟩
  · exact hunfound
  · -- the rules never fail
    rcases BackendRules.check_cases hcloud
        (mapState (RecordState.rejectAll reasons) (withLbId lb.id (refreshed r))) with
      ⟨-, hc⟩ | ⟨-, reason, hc⟩ | ⟨l, rule, group, -, hc⟩ <;>
    exact nomatch hc.symm.trans hfails

/-- **The verdicts of a validation of backends**, while the cloud can be reached. -/
theorem validateRecords_backends (ctx : Context) (cloud : Cloud) (hcloud : cloud.outage = none)
    (hapart : cloud.ListenersApart) (rs : List BackendRecord) :
    BackendVerdicts ctx cloud rs (validateRecords backendRules ctx cloud rs).1 := by
  constructor
  · refine ⟨fun ⟨cloudId, h⟩ => (backend_error hcloud hapart h).1, fun hunfound => ?_⟩
    cases h : (validateRecords backendRules ctx cloud rs).1 with
    | ok validated =>
      have hfound := found_of_validateRecords hcloud (BackendRules.transparent hapart) h
      exact absurd hunfound hfound
    | error e =>
      obtain ⟨-, cloudId, rfl⟩ := backend_error hcloud hapart h
      exact ⟨cloudId, rfl⟩
  · exact fun h => (backend_error hcloud hapart h).2
  · exact fun h => .of_forall (length_validateRecords h) (backend_verdict hcloud hapart h)
  · intro validated i r v x h hr hv hx
    rcases backend_resolved hcloud hapart h hr hv with ⟨y, s, hy, rfl, -⟩ | ⟨hnone, -⟩
    · rw [hx.unique hy]
      rfl
    · exact absurd ⟨x, hx⟩ hnone

/-- A cloud with a balancer in the region `r`, and with an HTTP listener on its port 80, whose rule
for `/` has a target group with one backend. -/
def bindingCloud : Cloud := .ofSnapshot
  { balancers := [{ id := "lb-1", cloudId := "clb-1", vendor := .tcloud, account := "a",
                    business := 1, region := "r", domain := "", privateV4 := ["10.0.0.1"],
                    privateV6 := [], publicV4 := [], publicV6 := [] }]
    listeners := [{ id := "l-1", cloudId := "lbl-1", balancer := "clb-1", protocol := .http,
                    port := 80, endPort := none, sni := false, certificate := none }]
    rules := [{ id := "u-1", cloudId := "loc-1", balancer := "clb-1", listener := "lbl-1",
                domain := "www.a.com", url := "/", targetGroup := some "tg-1" }]
    targets := [{ targetGroup := "tg-1", ip := "10.0.1.1", port := 8080, weight := 10,
                  kind := .eni }]
    instances := [{ id := "i-1", cloudId := "ins-1", name := "web", privateV4 := ["10.0.1.2"],
                    publicV4 := [], vpcs := [], zone := "" }] }

/-- The operator of the cloud. -/
def bindingContext : Context :=
  { vendor := .tcloud, business := 1, account := "a", regions := ["r"] }

/-- A backend to be bound to that rule. -/
def bindingRecord (kind ip : String) (weight : Int) : BackendRecord :=
  { BackendRecord.blank with
    vip := "10.0.0.1", balancer := "clb-1", protocol := "http", ports := [80],
    domain := "www.a.com", path := "/", kind := kind, ip := ip, backendPorts := [8080],
    weight := some weight }

/-- An instance that is not bound yet, the backend that is, and an instance that is not there. -/
def bindingRecords : List BackendRecord :=
  [bindingRecord "CVM" "10.0.1.2" 10, bindingRecord "ENI" "10.0.1.1" 10,
    bindingRecord "cvm" "10.0.1.3" 10]

/-- The first one can be bound, the second one is, and the third one is ruled out. -/
theorem validateRecords_backends_binding :
    (validateRecords backendRules bindingContext bindingCloud bindingRecords).1.map
      (fun vs => vs.map fun v => (v.state.status, v.lbId, v.targetGroup, v.inst.map Instance.id)) =
      .ok [(.executable, some "lb-1", some "tg-1", some "i-1"),
           (.existing, some "lb-1", some "tg-1", none),
           (.notExecutable, some "lb-1", some "tg-1", none)] ∧
    BackendVerdicts bindingContext bindingCloud bindingRecords
      (validateRecords backendRules bindingContext bindingCloud bindingRecords).1 := by
  have hapart : bindingCloud.ListenersApart := by
    unfold Cloud.ListenersApart
    decide
  exact ⟨by decide +kernel,
    validateRecords_backends bindingContext bindingCloud rfl hapart bindingRecords⟩

end BalancerImport
