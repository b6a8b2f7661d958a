import BalancerImport.Proofs.Check.Batch

/-!
# Looking up what a backend is bound to

The rules for backends ask one question after the other. Either one of the answers rules the record
out, or they lead to a target group, whose backends and, for a compute instance, whose address decide
about it.

* `Cloud.servingOf?`, `Cloud.ruleOf?`, `Cloud.boundAs?`, `Cloud.instanceOf?`: the answers;
* `BackendRules.Found`: the answers that lead to a target group; `BackendRules.Hosted`: the instance
  that is noted;
* **`BackendRules.check_cases`**: what the rules do with a record, up to a target group;
* **`BackendRules.settled_cases`**: what they do with it from there.
-/

namespace BalancerImport

open Importable Separable

namespace Cloud

/-- The first listener but for UDP on the balancer and the port of a record. -/
def servingOf? (cloud : Cloud) (r : BackendRecord) : Option Listener :=
  cloud.snapshot.listeners.find? fun l =>
    l.balancer == r.balancer && some l.port == r.firstPort? && l.protocol != .udp

/-- The first rule of a listener for the domain and the path of a record. -/
def ruleOf? (cloud : Cloud) (r : BackendRecord) (l : Listener) : Option UrlRule :=
  cloud.snapshot.rules.find? fun u =>
    u.balancer == r.balancer && u.listener == l.cloudId && u.domain == r.domain && u.url == r.path

/-- The first backend of a target group with the address and the port of a record. -/
def boundAs? (cloud : Cloud) (group : String) (r : BackendRecord) : Option Target :=
  cloud.snapshot.targets.find? fun t =>
    t.targetGroup == group && t.ip == r.ip && some t.port == r.firstBackendPort?

/-- The first instance with the private address of a record. -/
def instanceOf? (cloud : Cloud) (r : BackendRecord) : Option Instance :=
  cloud.snapshot.instances.find? fun i => i.privateV4.contains r.ip

end Cloud

namespace BackendRules

/-- The answers that lead from a record to a target group. -/
structure Found (cloud : Cloud) (r : BackendRecord) (l : Listener) (rule : UrlRule)
    (group : String) : Prop where
  listener : cloud.servingOf? r = some l
  protocol : r.protocol? = some l.protocol
  urlRule : cloud.ruleOf? r l = some rule
  targetGroup : rule.targetGroup = some group

/-- The instance that is noted for a record: for a compute instance it has to be found, and nothing
is noted for another backend. -/
structure Hosted (cloud : Cloud) (r : BackendRecord) (inst : Option Instance) : Prop where
  compute : r.kind? = some .cvm → inst.isSome = true ∧ inst = cloud.instanceOf? r
  other : r.kind? ≠ some .cvm → inst = r.inst

/-- A record whose target group was found, compared with the backends of the group. -/
def settled (cloud : Cloud) (group : String) (r : BackendRecord) : BackendRecord :=
  let r := settleTarget (cloud.snapshot.targets.filter fun t => t.targetGroup == group)
    { r with targetGroup := some group }
  if r.kind? = some .cvm then settleInstance (cloud.instanceOf? r) r else r

variable {cloud : Cloud} {group : String} {r : BackendRecord}

/-! ## Up to a target group -/

/-- The first listener but for UDP among those on a port. -/
theorem find?_listenersAt {port : Nat} (hport : r.firstPort? = some port) :
    (cloud.snapshot.listeners.filter fun l => l.balancer == r.balancer && l.port == port).find?
      (fun l => l.protocol != .udp) = cloud.servingOf? r := by
  rw [Cloud.servingOf?, hport, List.find?_filter]
  refine congrArg (List.find? · _) (funext fun l => Bool.eq_iff_iff.mpr ?_)
  simp

theorem find?_rules (r : BackendRecord) (l : Listener) :
    (cloud.snapshot.rules.find? fun u => u.balancer == r.balancer && u.listener == l.cloudId &&
      u.domain == r.domain && u.url == r.path) = cloud.ruleOf? r l := rfl

/-- Where the answers lead to a target group, the rules settle a record with it. -/
theorem check_of_found (hcloud : cloud.outage = none) (hport : r.firstPort? ≠ none) {l : Listener}
    {rule : UrlRule} (h : Found cloud r l rule group) :
    check (Lookups.direct cloud) r = .ok (settled cloud group r) := by
  obtain ⟨port, hport⟩ := Option.ne_none_iff_exists'.mp hport
  simp only [check, hport, Lookups.direct_listeners hcloud, Lookups.direct_rule hcloud,
    Lookups.direct_targets hcloud, Lookups.direct_inst hcloud, bind, Except.bind,
    find?_listenersAt hport, find?_rules, h.listener, h.protocol, ne_eq, not_true_eq_false, if_false,
    h.urlRule, h.targetGroup, settled]
  split
  · rfl
  · rfl

/-- Where they do not, the rules rule it out. -/
theorem check_of_not_found (hcloud : cloud.outage = none) (hport : r.firstPort? ≠ none)
    (hnot : ¬ ∃ l rule group, Found cloud r l rule group) :
    ∃ reason, check (Lookups.direct cloud) r = .ok (reject reason r) := by
  obtain ⟨port, hport⟩ := Option.ne_none_iff_exists'.mp hport
  simp only [check, hport, Lookups.direct_listeners hcloud, Lookups.direct_rule hcloud, bind,
    Except.bind, find?_listenersAt hport, find?_rules]
  cases hl : cloud.servingOf? r with
  | none => exact ⟨_, rfl⟩
  | some l =>
    by_cases hprotocol : r.protocol? = some l.protocol
    · simp only [hprotocol, ne_eq, not_true_eq_false, if_false]
      cases hrule : cloud.ruleOf? r l with
      | none => exact ⟨_, rfl⟩
      | some rule =>
        cases hgroup : rule.targetGroup with
        | none =>
          simp only [hgroup]
          exact ⟨_, rfl⟩
        | some group => exact absurd ⟨l, rule, group, hl, hprotocol, hrule, hgroup⟩ hnot
    · simp only [hprotocol, ne_eq, not_false_eq_true, if_true]
      exact ⟨_, rfl⟩

/-- **What the rules do with a record**: nothing if it has no port; they rule it out if the answers
lead nowhere, and otherwise settle it with the target group. -/
theorem check_cases (hcloud : cloud.outage = none) (r : BackendRecord) :
    (r.firstPort? = none ∧ check (Lookups.direct cloud) r = .ok r) ∨
    ((¬ ∃ l rule group, Found cloud r l rule group) ∧
      ∃ reason, check (Lookups.direct cloud) r = .ok (reject reason r)) ∨
    ∃ l rule group, Found cloud r l rule group ∧
      check (Lookups.direct cloud) r = .ok (settled cloud group r) := by
  by_cases hport : r.firstPort? = none
  · refine .inl ⟨hport, ?_⟩
    rw [check, hport]
    rfl
  · by_cases hfound : ∃ l rule group, Found cloud r l rule group
    · obtain ⟨l, rule, group, h⟩ := hfound
      exact .inr (.inr ⟨l, rule, group, h, check_of_found hcloud hport h⟩)
    · exact .inr (.inl ⟨hfound, check_of_not_found hcloud hport hfound⟩)

/-! ## From there on -/

/-- The state of a record after it was compared with the backends of a target group. -/
structure Weighed (cloud : Cloud) (group : String) (r : BackendRecord) (s : RecordState) : Prop where
  free : cloud.boundAs? group r = none → s = r.state
  same : ∀ t, cloud.boundAs? group r = some t → r.weight = some (t.weight : Int) →
    s = r.state.markExisting
  other : ∀ t, cloud.boundAs? group r = some t → r.weight ≠ some (t.weight : Int) →
    s.status = .notExecutable

theorem settleTarget_eq (cloud : Cloud) (group : String) (r : BackendRecord) :
    ∃ s, Weighed cloud group r s ∧
      settleTarget (cloud.snapshot.targets.filter fun t => t.targetGroup == group)
        { r with targetGroup := some group } = { r with state := s, targetGroup := some group } := by
  have hbound : (cloud.snapshot.targets.filter fun t => t.targetGroup == group).find?
      (fun t => t.ip == r.ip && some t.port == r.firstBackendPort?) = cloud.boundAs? group r := by
    rw [Cloud.boundAs?, List.find?_filter]
    refine congrArg (List.find? · _) (funext fun t => Bool.eq_iff_iff.mpr ?_)
    simp [and_assoc]
  unfold settleTarget
  simp only [BackendRecord.firstBackendPort?] at hbound ⊢
  rw [hbound]
  cases h : cloud.boundAs? group r with
  | none => exact ⟨r.state, ⟨fun _ => rfl, by simp [h], by simp [h]⟩, rfl⟩
  | some t =>
    by_cases hweight : r.weight = some (t.weight : Int)
    · refine ⟨r.state.markExisting, ⟨by simp [h], fun _ _ _ => rfl, ?_⟩, if_pos hweight⟩
      rintro t' ht' hne
      obtain rfl := Option.some.inj (h.symm.trans ht')
      exact absurd hweight hne
    · refine ⟨_, ⟨by simp [h], ?_, fun _ _ _ => rfl⟩, if_neg hweight⟩
      rintro t' ht' heq
      obtain rfl := Option.some.inj (h.symm.trans ht')
      exact absurd heq hweight

/-- **What the rules do with a record whose target group was found**: they note the group and the
instance and compare the record with the backends of the group, or rule it out if its instance is
not found. -/
theorem settled_cases (cloud : Cloud) (group : String) (r : BackendRecord) :
    (∃ inst s, Hosted cloud r inst ∧ Weighed cloud group r s ∧
      settled cloud group r = { r with state := s, targetGroup := some group, inst := inst }) ∨
    ((¬ ∃ inst, Hosted cloud r inst) ∧ (settled cloud group r).state.status = .notExecutable) := by
  obtain ⟨s, hs, htarget⟩ := settleTarget_eq cloud group r
  have hkind : ∀ s, BackendRecord.kind? { r with state := s, targetGroup := some group } = r.kind? :=
    fun _ => rfl
  have hinst : ∀ s, cloud.instanceOf? { r with state := s, targetGroup := some group } =
      cloud.instanceOf? r := fun _ => rfl
  simp only [settled, htarget, hkind, hinst]
  by_cases hcompute : r.kind? = some .cvm
  · rw [if_pos hcompute]
    cases hfound : cloud.instanceOf? r with
    | some i =>
      exact .inl ⟨some i, s, ⟨fun _ => ⟨rfl, hfound.symm⟩, fun h => absurd hcompute h⟩, hs, rfl⟩
    | none =>
      refine .inr ⟨fun ⟨inst, h⟩ => ?_, rfl⟩
      obtain ⟨hsome, rfl⟩ := h.compute hcompute
      rw [hfound] at hsome
      exact nomatch hsome
  · rw [if_neg hcompute]
    exact .inl ⟨r.inst, s, ⟨fun h => absurd h hcompute, fun _ => rfl⟩, hs, rfl⟩

/-! ## What is ruled out -/

theorem Weighed.pinned {s : RecordState} (h : Weighed cloud group r s)
    (hr : r.state.status = .notExecutable) : s.status = .notExecutable := by
  cases hbound : cloud.boundAs? group r with
  | none => rw [h.free hbound, hr]
  | some t =>
    by_cases hweight : r.weight = some (t.weight : Int)
    · rw [h.same t hbound hweight, RecordState.markExisting, if_pos hr, hr]
    · exact h.other t hbound hweight

/-- **What is ruled out stays so.** -/
theorem pinning (hcloud : cloud.outage = none) : backendRules.Pinning cloud := by
  intro r r' hr hcheck
  rcases check_cases hcloud r with ⟨-, h⟩ | ⟨-, reason, h⟩ | ⟨l, rule, group, -, h⟩
  · obtain rfl := Except.ok.inj (h.symm.trans hcheck)
    exact hr
  · obtain rfl := Except.ok.inj (h.symm.trans hcheck)
    rfl
  · obtain rfl := Except.ok.inj (h.symm.trans hcheck)
    rcases settled_cases cloud group r with ⟨inst, s, -, hs, heq⟩ | ⟨-, hstatus⟩
    · rw [heq]
      exact hs.pinned hr
    · simpa only [Importable.state] using hstatus

end BackendRules

end BalancerImport
