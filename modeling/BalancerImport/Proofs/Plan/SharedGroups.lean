import Mathlib.Data.List.Pairwise
import BalancerImport.Proofs.Check.Collisions
import BalancerImport.Proofs.Plan.Payloads

/-!
# Backends of one target group

A batch is searched for duplicates by the rules that its records name, before it is known to which
target groups the rules lead. Of the records that can be executed no two ask for one backend at one
rule, but two rules may share a target group, and then a plan may bind one backend to it twice.

* `BackendRecord.SameRule`, `BackendRecord.address`: what two records may have in common;
* `BackendRecord.resolvedTo`: the records of a target group that can be executed;
  `BackendRecord.OneRule`: they name one rule;
* `Cloud.Names`: the rule that a record names; `Cloud.GroupsApart`: target groups belong to one rule
  each;
* **`bound_once`**: no backend is bound twice at a rule, and none to a target group whose records name
  one rule; and records (`bound_twice`) of which the same backend is bound twice to a target group.
-/

namespace BalancerImport

open Importable Separable

namespace BackendRecord

/-- Two records name the same rule: a balancer, the port of a listener, a domain and a path. -/
structure SameRule (r s : BackendRecord) : Prop where
  balancer : r.balancer = s.balancer
  ports : r.ports = s.ports
  domain : r.domain = s.domain
  path : r.path = s.path

/-- The address of the backend that a record asks for. -/
def address (r : BackendRecord) : String × List Nat := (r.ip, r.backendPorts)

/-- The records that can be executed and were resolved to a target group. -/
def resolvedTo (group : String) (rs : List BackendRecord) : List BackendRecord :=
  (rs.filter isExecutable).filter fun r => r.targetGroup = some group

/-- All records of a target group that can be executed name one rule. -/
def OneRule (group : String) (rs : List BackendRecord) : Prop :=
  ∀ r ∈ resolvedTo group rs, ∀ s ∈ resolvedTo group rs, SameRule r s

variable {r s : BackendRecord}

theorem SameRule.sameBinding (h : SameRule r s) (haddress : r.address = s.address) :
    SameBinding r s :=
  ⟨h.balancer, h.ports, h.domain, h.path, congrArg Prod.fst haddress, congrArg Prod.snd haddress⟩

theorem SameBinding.symm (h : SameBinding r s) : SameBinding s r :=
  ⟨h.balancer.symm, h.ports.symm, h.domain.symm, h.path.symm, h.ip.symm, h.backendPorts.symm⟩

end BackendRecord

/-- Listeners with one id are on one port of one balancer, and a target group belongs to one rule. -/
structure Cloud.GroupsApart (cloud : Cloud) : Prop where
  listeners : ∀ l ∈ cloud.snapshot.listeners, ∀ l' ∈ cloud.snapshot.listeners,
    l.cloudId = l'.cloudId → l.balancer = l'.balancer ∧ l.port = l'.port
  rules : ∀ u ∈ cloud.snapshot.rules, ∀ u' ∈ cloud.snapshot.rules,
    u.targetGroup.isSome = true → u.targetGroup = u'.targetGroup →
    u.balancer = u'.balancer ∧ u.listener = u'.listener ∧ u.domain = u'.domain ∧ u.url = u'.url

/-- A record names a rule of the cloud, and with it its listener. -/
structure Cloud.Names (cloud : Cloud) (r : BackendRecord) (l : Listener) (u : UrlRule) : Prop where
  mem_listeners : l ∈ cloud.snapshot.listeners
  mem_rules : u ∈ cloud.snapshot.rules
  ports : r.ports = [l.port]
  balancer : u.balancer = r.balancer
  listener : u.listener = l.cloudId
  domain : u.domain = r.domain
  path : u.url = r.path

open BackendRecord (SameBinding SameRule OneRule resolvedTo)

variable {ctx : Context} {cloud : Cloud} {rs validated : List BackendRecord}

/-! ## Records -/

/-- A record that can be executed has the key of a candidate. -/
theorem candidate_of_executable (h : (validateRecords backendRules ctx cloud rs).1 = .ok validated)
    {i : Nat} {v : BackendRecord} (hv : validated[i]? = some v) (hexecutable : isExecutable v = true) :
    ∃ r, Candidate rs i r ∧ dedupKey (canonical r) = v.dedupKey := by
  obtain ⟨r, -, hcandidate, hbare, -⟩ := asked_of_validateRecords (BackendRules.yielding cloud)
    BackendRules.annotating h hv hexecutable
  refine ⟨r, hcandidate, ?_⟩
  generalize canonical r = c at hbare
  exact (congrArg BackendRecord.dedupKey hbare.symm :)

/-- **Of the records that can be executed no two ask for the same binding.** -/
theorem pairwise_not_sameBinding
    (h : (validateRecords backendRules ctx cloud rs).1 = .ok validated) :
    (validated.filter isExecutable).Pairwise fun v w => ¬ SameBinding v w := by
  rw [List.pairwise_filter, List.pairwise_iff_getElem]
  intro i j hi hj hlt hv hw hsame
  obtain ⟨r, hr, hkey⟩ := candidate_of_executable h (List.getElem?_eq_getElem hi) hv
  obtain ⟨s, hs, hkey'⟩ := candidate_of_executable h (List.getElem?_eq_getElem hj) hw
  have hsame : dedupKey (canonical s) = dedupKey (canonical r) := by
    rw [hkey, hkey', hsame.dedupKey]
  exact Nat.ne_of_gt hlt (hr.alone j s hs.listed hsame)

/-- A target group whose records name one rule has no two of them for one backend. -/
theorem nodup_address (h : (validateRecords backendRules ctx cloud rs).1 = .ok validated)
    {group : String} (hone : OneRule group validated) :
    ((resolvedTo group validated).map BackendRecord.address).Nodup := by
  rw [List.Nodup, List.pairwise_map]
  refine ((pairwise_not_sameBinding h).filter _).imp_of_mem fun {v w} hv hw hne haddress => ?_
  exact hne ((hone v hv w hw).sameBinding haddress)

/-! ## Rules -/

/-- A record names the rule that is found for it. -/
theorem BackendRules.Found.names {r : BackendRecord} {l : Listener} {u : UrlRule} {group : String}
    (h : Found cloud r l u group) (hr : r.WellFormed) : cloud.Names r l u := by
  obtain ⟨port, hport, -⟩ := hr.port
  have hlistener := List.find?_some h.listener
  have hrule := List.find?_some h.urlRule
  simp only [Bool.and_eq_true, beq_iff_eq] at hlistener hrule
  obtain ⟨⟨-, hlport⟩, -⟩ := hlistener
  obtain ⟨⟨⟨hbalancer, hserved⟩, hdomain⟩, hpath⟩ := hrule
  rw [BackendRecord.firstPort?, hport, List.head?_cons, Option.some.injEq] at hlport
  refine ⟨List.mem_of_find?_eq_some h.listener, List.mem_of_find?_eq_some h.urlRule, ?_, hbalancer,
    hserved, hdomain, hpath⟩
  rw [hport, hlport]

theorem Cloud.Names.of_bare {r s : BackendRecord} {l : Listener} {u : UrlRule}
    (h : cloud.Names r l u) (hbare : bare s = bare r) : cloud.Names s l u where
  mem_listeners := h.mem_listeners
  mem_rules := h.mem_rules
  ports := (congrArg BackendRecord.ports hbare :).trans h.ports
  balancer := h.balancer.trans (congrArg BackendRecord.balancer hbare.symm :)
  listener := h.listener
  domain := h.domain.trans (congrArg BackendRecord.domain hbare.symm :)
  path := h.path.trans (congrArg BackendRecord.path hbare.symm :)

/-- A record of a target group that can be executed names a rule of the group, if the cloud keeps its
listeners apart. -/
theorem names_of_resolvedTo (hapart : cloud.ListenersApart)
    (h : (validateRecords backendRules ctx cloud rs).1 = .ok validated) {group : String}
    {v : BackendRecord} (hv : v ∈ resolvedTo group validated) :
    ∃ l u, cloud.Names v l u ∧ u.targetGroup = some group := by
  obtain ⟨hexecutable, hgroup⟩ := List.mem_filter.mp hv
  obtain ⟨hmem, hexecutable⟩ := List.mem_filter.mp hexecutable
  obtain ⟨i, hi⟩ := List.mem_iff_getElem?.mp hmem
  obtain ⟨hcloud, r, -, hr, -⟩ :=
    executable_of_validateRecords (BackendRules.yielding cloud) h hi hexecutable
  obtain ⟨x, s, hx, hnote, -⟩ | ⟨-, hstatus⟩ := backend_resolved hcloud hapart h hr.listed hi
  · have hfound := hx.found
    have hwell : r.canonical.WellFormed := hr.wellFormed
    rw [Resolution.note] at hnote
    generalize r.canonical = c at hnote hfound hwell
    have hbare : bare v = bare c := by rw [hnote]; rfl
    have hnoted : v.targetGroup = some x.group := by rw [hnote]
    refine ⟨x.listener, x.rule, (hfound.names hwell).of_bare hbare, ?_⟩
    rw [hfound.targetGroup, ← hnoted, of_decide_eq_true hgroup]
  · have hstatus' : v.state.status = .executable := beq_iff_eq.mp hexecutable
    exact absurd (hstatus.symm.trans hstatus') (by decide)

namespace Cloud.GroupsApart

/-- Records that name rules of one target group name one rule. -/
theorem sameRule (hapart : cloud.GroupsApart) {v w : BackendRecord} {l l' : Listener}
    {u u' : UrlRule} (hv : cloud.Names v l u) (hw : cloud.Names w l' u') {group : String}
    (hgroup : u.targetGroup = some group) (hgroup' : u'.targetGroup = some group) :
    SameRule v w := by
  obtain ⟨hbalancer, hlistener, hdomain, hurl⟩ := hapart.rules u hv.mem_rules u' hw.mem_rules
    (by rw [hgroup]; rfl) (hgroup.trans hgroup'.symm)
  obtain ⟨-, hport⟩ := hapart.listeners l hv.mem_listeners l' hw.mem_listeners
    (hv.listener.symm.trans (hlistener.trans hw.listener))
  constructor
  · exact hv.balancer.symm.trans (hbalancer.trans hw.balancer)
  · rw [hv.ports, hw.ports, hport]
  · exact hv.domain.symm.trans (hdomain.trans hw.domain)
  · exact hv.path.symm.trans (hurl.trans hw.path)

/-- Where target groups are apart, all records of a target group name one rule. -/
theorem oneRule (hapart : cloud.GroupsApart)
    (h : (validateRecords backendRules ctx cloud rs).1 = .ok validated) (group : String) :
    OneRule group validated := by
  have hlisteners : cloud.ListenersApart := fun l hl l' hl' hid => (hapart.listeners l hl l' hl' hid).1
  intro v hv w hw
  obtain ⟨l, u, hnames, hgroup⟩ := names_of_resolvedTo hlisteners h hv
  obtain ⟨l', u', hnames', hgroup'⟩ := names_of_resolvedTo hlisteners h hw
  exact hapart.sameRule hnames hnames' hgroup hgroup'

end Cloud.GroupsApart

/-! ## Entries -/

namespace BackendPlan

/-- The address that an entry names. -/
def address (e : Json) : Option Json × Option Json := (e.member? "ip", e.member? "port")

/-- The entries of well formed records tell their addresses. -/
theorem address_entry_inj {group : String} {r s : BackendRecord} (hr : r.WellFormed)
    (hs : s.WellFormed) (h : address (entry ctx group r) = address (entry ctx group s)) :
    r.address = s.address := by
  obtain ⟨port, hport, -⟩ := hr.backendPort
  obtain ⟨port', hport', -⟩ := hs.backendPort
  obtain ⟨hip, -, hfirst, -⟩ := asked_entry ctx group r
  obtain ⟨hip', -, hfirst', -⟩ := asked_entry ctx group s
  simp only [address, hip, hip', hfirst, hfirst', BackendRecord.firstBackendPort?, hport, hport',
    List.head?_cons, Option.getD_some, Json.nat, Prod.mk.injEq, Option.some.injEq, Json.str.injEq,
    Json.num.injEq, Json.Number.int.injEq, Int.natCast_inj] at h
  rw [BackendRecord.address, BackendRecord.address, h.1, hport, h.2, hport']

variable {limits : Limits} {items : List (Uuid × BackendRecord)} {plans : List Plan}

/-- All plans together list one entry for each item of a target group. -/
theorem flatMap_sentTo (h : compile ctx limits items = .ok plans) (group : String) :
    plans.flatMap (sentTo group) = (plans.flatMap fun p => items.filter fun item =>
      lbId item.2 = some p.lbId ∧ item.2.targetGroup = some group).map
        fun item => entry ctx group item.2 := by
  rw [List.map_flatMap]
  exact List.flatMap_congr fun p hp => sentTo_eq h hp group

/-- What holds of any two items holds of any two items that plans work on. -/
theorem pairwise_of_compile {P : Uuid × BackendRecord → Uuid × BackendRecord → Prop}
    [Std.Symm P] (hitems : items.Pairwise P) (h : compile ctx limits items = .ok plans)
    (group : String) :
    (plans.flatMap fun p => items.filter fun item =>
      lbId item.2 = some p.lbId ∧ item.2.targetGroup = some group).Pairwise P := by
  rw [List.pairwise_flatMap]
  refine ⟨fun p _ => hitems.filter _, ?_⟩
  have hnodup := (compile_ok h).nodup
  rw [List.Nodup, List.pairwise_map] at hnodup
  refine hnodup.imp fun {p q} hne a ha b hb => ?_
  obtain ⟨ha, hp⟩ := List.mem_filter.mp ha
  obtain ⟨hb, hq⟩ := List.mem_filter.mp hb
  refine hitems.forall ha hb ?_
  rintro rfl
  exact hne (Option.some.inj ((of_decide_eq_true hp).1.symm.trans (of_decide_eq_true hq).1))

/-- The plans of a validation list no backend twice for a target group whose records name one rule. -/
theorem nodup_address_sentTo (h : (validateRecords backendRules ctx cloud rs).1 = .ok validated)
    {group : String} (hone : OneRule group validated)
    (hitems : items.map Prod.snd = validated.filter isExecutable)
    (hcompile : compile ctx limits items = .ok plans) :
    ((plans.flatMap (sentTo group)).map address).Nodup := by
  have hwell := forall_items hitems (wellFormed_of_validateRecords h)
  have hapart : items.Pairwise fun a b => ¬ SameBinding a.2 b.2 := by
    have hvalidated := pairwise_not_sameBinding h
    rwa [← hitems, List.pairwise_map] at hvalidated
  have hsymm : Std.Symm fun a b : Uuid × BackendRecord => ¬ SameBinding a.2 b.2 :=
    ⟨fun a b hne hsame => hne hsame.symm⟩
  have hgroup : ∀ p ∈ plans, ∀ item ∈ items.filter (fun item =>
      lbId item.2 = some p.lbId ∧ item.2.targetGroup = some group),
      item ∈ items ∧ item.2 ∈ resolvedTo group validated := by
    intro p _ item hi
    obtain ⟨hi, hkeys⟩ := List.mem_filter.mp hi
    refine ⟨hi, List.mem_filter.mpr ⟨hitems ▸ List.mem_map_of_mem hi, ?_⟩⟩
    exact decide_eq_true (of_decide_eq_true hkeys).2
  rw [flatMap_sentTo hcompile, List.map_map, List.Nodup, List.pairwise_map]
  refine (pairwise_of_compile hapart hcompile group).imp_of_mem fun {a b} ha hb hne haddress => ?_
  obtain ⟨p, hp, ha⟩ := List.mem_flatMap.mp ha
  obtain ⟨q, hq, hb⟩ := List.mem_flatMap.mp hb
  obtain ⟨hia, hra⟩ := hgroup p hp a ha
  obtain ⟨hib, hrb⟩ := hgroup q hq b hb
  have hsame := address_entry_inj (hwell a hia) (hwell b hib) haddress
  exact hne ((hone a.2 hra b.2 hrb).sameBinding hsame)

end BackendPlan

/-! ## What is bound once -/

/-- **No batch binds one backend twice at one rule.** Of the records that can be executed after a
validation no two ask for the same backend at the same rule. So where those of a target group name
one rule, no two of them are for one backend, and the plans bind no backend to the group twice; and
they do name one rule where the cloud keeps its target groups apart. -/
theorem bound_once (ctx : Context) (cloud : Cloud)
    (h : (validateRecords backendRules ctx cloud rs).1 = .ok validated) :
    (validated.filter isExecutable).Pairwise (fun v w => ¬ SameBinding v w) ∧
    (∀ group, OneRule group validated →
      ((resolvedTo group validated).map BackendRecord.address).Nodup ∧
      ∀ limits items plans, items.map Prod.snd = validated.filter isExecutable →
        BackendPlan.compile ctx limits items = .ok plans →
        ((plans.flatMap (BackendPlan.sentTo group)).map BackendPlan.address).Nodup) ∧
    (cloud.GroupsApart → ∀ group, OneRule group validated) :=
  ⟨pairwise_not_sameBinding h,
    fun _ hone => ⟨nodup_address h hone,
      fun _ _ _ hitems => BackendPlan.nodup_address_sentTo h hone hitems⟩,
    fun hapart => hapart.oneRule h⟩

/-- Two backends are bound to the one target group of `bindingCloud`, each once. -/
theorem bound_once_bindable : ∃ validated,
    (validateRecords backendRules bindingContext bindingCloud bindableRecords).1 = .ok validated ∧
    (resolvedTo "tg-1" validated).map BackendRecord.address =
      [("10.0.1.2", [8080]), ("10.0.1.9", [8080])] ∧
    bindingCloud.GroupsApart ∧ OneRule "tg-1" validated ∧
    ∃ plans, BackendPlan.compile bindingContext .standard
        (List.zip [⟨0⟩, ⟨1⟩] (validated.filter isExecutable)) = .ok plans ∧
      ((plans.flatMap (BackendPlan.sentTo "tg-1")).map BackendPlan.address).Nodup := by
  have htwo : (validateRecords backendRules bindingContext bindingCloud bindableRecords).1.map
      (fun vs => (vs.filter isExecutable).length) = .ok ([⟨0⟩, ⟨1⟩] : List Uuid).length := by
    decide +kernel
  have haddresses : (validateRecords backendRules bindingContext bindingCloud bindableRecords).1.map
      (fun vs => (resolvedTo "tg-1" vs).map BackendRecord.address) =
      .ok [("10.0.1.2", [8080]), ("10.0.1.9", [8080])] := by decide +kernel
  have hapart : bindingCloud.GroupsApart := ⟨by decide, by decide⟩
  obtain ⟨validated, hvalidated, hitems⟩ := exists_items htwo
  obtain ⟨-, honce, hone⟩ := bound_once bindingContext bindingCloud hvalidated
  have hlimit : Limits.standard.backends ≠ 0 := by decide
  obtain ⟨plans, hplans, -⟩ := BackendPlan.compile_total hlimit
    (forall_items hitems (ready_of_validateRecords BackendRules.resolves hvalidated))
  rw [hvalidated] at haddresses
  have hsent := (honce "tg-1" (hone hapart "tg-1")).2 .standard _ plans hitems hplans
  exact ⟨validated, hvalidated, Except.ok.inj haddresses, hapart, hone hapart "tg-1", plans, hplans,
    hsent⟩

/-- A cloud whose rules for `/` and `/api` share a target group. -/
def sharingCloud : Cloud := .ofSnapshot { bindingCloud.snapshot with
  rules := bindingCloud.snapshot.rules.flatMap fun u => [u, { u with url := "/api" }] }

/-- A backend to be bound to both rules, with two weights. -/
def sharingRecords : List BackendRecord :=
  [bindingRecord "ENI" "10.0.1.9" 10, { bindingRecord "ENI" "10.0.1.9" 20 with path := "/api" }]

/-- Both can be executed, and both are for one backend of one target group. -/
theorem bound_twice : ¬ ∀ (ctx : Context) (cloud : Cloud) (rs validated : List BackendRecord),
    (validateRecords backendRules ctx cloud rs).1 = .ok validated →
    ∀ group, ((resolvedTo group validated).map BackendRecord.address).Nodup := by
  intro hclaim
  have htwice : (validateRecords backendRules bindingContext sharingCloud sharingRecords).1.map
      (fun vs => (resolvedTo "tg-1" vs).map BackendRecord.address) =
      .ok [("10.0.1.9", [8080]), ("10.0.1.9", [8080])] := by decide +kernel
  obtain ⟨validated, hvalidated, haddresses⟩ := map_ok htwice
  have hnodup := hclaim _ _ _ _ hvalidated "tg-1"
  rw [haddresses] at hnodup
  exact absurd hnodup (by decide)

end BalancerImport
