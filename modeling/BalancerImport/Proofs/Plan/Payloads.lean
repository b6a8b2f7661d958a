import BalancerImport.Proofs.Check.Listeners
import BalancerImport.Proofs.Check.Survival
import BalancerImport.Proofs.Plan.Entries
import BalancerImport.Proofs.Plan.Success
import BalancerImport.Proofs.Record.RoundTrip

/-!
# What the entries of tasks say

An entry is made from a record whatever the record is like: where a port or a weight is missing it
says `0`, and of a list of ports it gives the ends. Records that can be executed after validation
have all that is asked of them, so that nothing is made up for them and nothing is left out.

* `forall_items`: what holds of the records of a validation that can be executed;
* `ListenerPlan.Faithful`, `BackendPlan.Faithful`: an entry that says what its record asks for;
* `ListenerPlan.faithful_entry`, `BackendPlan.faithful_entry`: well formed records have such entries;
* `ListenerPlan.Carried`, `BackendPlan.Carried`: plans whose tasks list such entries;
* **`compile_faithful`**: the plans of a validation are such, as for `servingRecords` and
  `bindableRecords` (`compile_faithful_served`).
-/

namespace BalancerImport

open Importable Separable

/-! ## Items of validated records -/

section

variable {R : Type} [Importable R] {validated : List R}

/-- What holds of the validated records that can be executed holds of the records of their items. -/
theorem forall_items {items : List (Uuid × R)} {P : R → Prop}
    (hitems : items.map Prod.snd = validated.filter isExecutable)
    (h : ∀ v ∈ validated, isExecutable v = true → P v) : ∀ item ∈ items, P item.2 := by
  intro item hi
  obtain ⟨hmem, hexecutable⟩ := List.mem_filter.mp (hitems ▸ List.mem_map_of_mem hi)
  exact h item.2 hmem hexecutable

/-- Where as many records can be executed as there are ids, each id is the item of one. -/
theorem exists_items {ids : List Uuid} {answer : Except CheckError (List R)}
    (h : (answer.map fun vs => (vs.filter isExecutable).length) = .ok ids.length) :
    ∃ validated, answer = .ok validated ∧ (ids.zip (validated.filter isExecutable)).map Prod.snd =
      validated.filter isExecutable := by
  obtain ⟨validated, hvalidated, hlength⟩ := map_ok h
  exact ⟨validated, hvalidated, List.map_snd_zip (Nat.le_of_eq hlength)⟩

end

/-! ## Listeners -/

/-- What is well formed about a record is what it asks for. -/
theorem ListenerRecord.wellFormed_bare {r : ListenerRecord} : (bare r).WellFormed ↔ r.WellFormed :=
  ⟨fun h => ⟨h.1, h.2, h.3⟩, fun h => ⟨h.1, h.2, h.3⟩⟩

namespace ListenerPlan

/-- An entry says what its record asks for: the protocol, by its name, and all ports of the record,
from the first one, after which the listener is named, to the last one. -/
structure Faithful (lbId : String) (r : ListenerRecord) (e : Json) : Prop where
  protocol : r.protocol = "HTTP" ∨ r.protocol = "HTTPS"
  named : e.member? "protocol" = some (.str r.protocol)
  balancer : r.lbId = some lbId ∧ e.member? "lb_id" = some (.str lbId)
  ports : ∃ first last, 1 ≤ first ∧ first ≤ last ∧ last ≤ 65535 ∧
    r.ports = List.range' first (last + 1 - first) ∧
    e.member? "port" = some (.nat first) ∧
    e.member? "end_port" = (if first = last then none else some (.nat last)) ∧
    e.member? "name" = some (.str s!"{r.protocol}-{first}")

/-- The ends of a run of ports. -/
theorem ends_of_range {r : ListenerRecord} {first last : Nat} (hle : first ≤ last)
    (h : r.ports = List.range' first (last + 1 - first)) :
    r.firstPort? = some first ∧ r.endPort? = if first = last then none else some last := by
  have hlength : last + 1 - first ≠ 0 := by omega
  have hlast : first + (last + 1 - first) - 1 = last := by omega
  rw [ListenerRecord.firstPort?, ListenerRecord.endPort?, h, List.head?_range', List.getLast?_range',
    List.length_range', if_neg hlength, if_neg hlength, hlast]
  refine ⟨rfl, ?_⟩
  by_cases hone : first = last
  · rw [if_pos hone, if_neg (by omega)]
  · rw [if_neg hone, if_pos (by omega)]

/-- **The entry of a well formed record says what the record asks for.** -/
theorem faithful_entry (ctx : Context) {lbId : String} {r : ListenerRecord} (hr : r.WellFormed)
    (hlb : r.lbId = some lbId) : Faithful lbId r (entry ctx lbId r) := by
  obtain ⟨first, last, hfirst, hle, hlast, hports⟩ := hr.ports
  obtain ⟨hhead, hend⟩ := ends_of_range hle hports
  refine ⟨hr.security.imp And.left And.left, ?_, ⟨hlb, ?_⟩,
    first, last, hfirst, hle, hlast, hports, ?_, ?_, ?_⟩
  all_goals
    by_cases hone : first = last <;>
      simp [entry, hhead, hend, hone, Json.member?, Json.lookupLast, List.lookup_cons]

/-- Plans carry the records of some items: each item has a plan, and a plan lists one entry for each
of its items, in order, which says what the record of the item asks for. -/
structure Carried (items : List (Uuid × ListenerRecord)) (plans : List Plan) : Prop where
  planned : ∀ item ∈ items, ∃ p ∈ plans, lbId item.2 = some p.lbId
  listed : ∀ p ∈ plans, List.Forall₂ (fun item e => Faithful p.lbId item.2 e)
    (items.filter fun item => lbId item.2 = some p.lbId) (sent p)

variable {ctx : Context} {limits : Limits} {cloud : Cloud} {rs validated : List ListenerRecord}
  {items : List (Uuid × ListenerRecord)} {plans : List Plan}

theorem carried_of_compile (hitems : ∀ item ∈ items, item.2.WellFormed)
    (h : compile ctx limits items = .ok plans) : Carried items plans := by
  refine ⟨fun item hi => (compile_ok h).exists_plan hi, fun p hp => ?_⟩
  rw [sent_eq h hp, List.forall₂_map_right_iff, List.forall₂_same]
  intro item hi
  obtain ⟨hmem, hlb⟩ := List.mem_filter.mp hi
  exact faithful_entry ctx (hitems item hmem) (of_decide_eq_true hlb)

/-- A listener that can be executed is well formed. -/
theorem wellFormed_of_validateRecords
    (h : (validateRecords listenerRules ctx cloud rs).1 = .ok validated) :
    ∀ v ∈ validated, isExecutable v = true → v.WellFormed :=
  BalancerImport.wellFormed_of_validateRecords (ListenerRules.yielding cloud)
    ListenerRules.annotating (fun _ => ListenerRecord.wellFormed_bare) h

end ListenerPlan

/-! ## Backends -/

namespace BackendRecord

/-- What is well formed about a record is what it asks for. -/
theorem wellFormed_bare {r : BackendRecord} : (bare r).WellFormed ↔ r.WellFormed :=
  ⟨fun h => ⟨h.1, h.2, h.3, h.4, h.5, h.6, h.7, h.8, h.9⟩,
    fun h => ⟨h.1, h.2, h.3, h.4, h.5, h.6, h.7, h.8, h.9⟩⟩

/-- A record is placed: on a compute instance an instance of the cloud is noted that has its address,
and on another backend none. -/
structure Placed (cloud : Cloud) (r : BackendRecord) : Prop where
  compute : r.kind = "CVM" →
    ∃ i ∈ cloud.snapshot.instances, r.ip ∈ i.privateV4 ∧ r.inst = some i
  other : r.kind = "ENI" → r.inst = none

end BackendRecord

namespace BackendPlan

/-- An entry tells what is known of an instance. -/
structure OnInstance (i : Instance) (e : Json) : Prop where
  cloudId : e.member? "cloud_inst_id" = some (.str i.cloudId)
  name : e.member? "inst_name" = some (.str i.name)
  privateV4 : e.member? "private_ip_address" = some (.strs i.privateV4)
  publicV4 : e.member? "public_ip_address" = some (.strs i.publicV4)
  vpcs : e.member? "cloud_vpc_ids" = some (.strs i.vpcs)
  zone : e.member? "zone" = if i.zone = "" then none else some (.str i.zone)

/-- An entry tells an address, and nothing of an instance. -/
structure ByAddress (ip : String) (e : Json) : Prop where
  cloudId : e.member? "cloud_inst_id" = none
  name : e.member? "inst_name" = none
  privateV4 : e.member? "private_ip_address" = some (.strs [ip])
  publicV4 : e.member? "public_ip_address" = some (.strs [])
  vpcs : e.member? "cloud_vpc_ids" = some (.strs [])
  zone : e.member? "zone" = none

/-- An entry says what its record asks for: the address, the one port and the weight of the backend,
for the account of the context and the target group of the record, and where it runs: on an instance
of the cloud with its address, or only at its address. -/
structure Faithful (ctx : Context) (cloud : Cloud) (group : String) (r : BackendRecord) (e : Json) :
    Prop where
  ip : e.member? "ip" = some (.str r.ip)
  port : ∃ p, r.backendPorts = [p] ∧ PortNumber p ∧ e.member? "port" = some (.nat p)
  weight : ∃ w, r.weight = some w ∧ 0 ≤ w ∧ w ≤ 100 ∧ e.member? "weight" = some (.int w)
  account : e.member? "account_id" = some (.str ctx.account)
  group : r.targetGroup = some group ∧ e.member? "target_group_id" = some (.str group)
  named : e.member? "inst_type" = some (.str r.kind)
  placed : (r.kind = "CVM" ∧ ∃ i ∈ cloud.snapshot.instances, r.ip ∈ i.privateV4 ∧ OnInstance i e) ∨
    (r.kind = "ENI" ∧ ByAddress r.ip e)

variable {ctx : Context} {cloud : Cloud}

theorem onInstance_entry (ctx : Context) (group : String) {r : BackendRecord} {i : Instance}
    (h : r.inst = some i) : OnInstance i (entry ctx group r) := by
  constructor <;> by_cases hzone : i.zone = "" <;>
    simp [entry, placement, h, hzone, Json.member?, Json.lookupLast, List.lookup_cons]

theorem byAddress_entry (ctx : Context) (group : String) {r : BackendRecord} (h : r.inst = none) :
    ByAddress r.ip (entry ctx group r) := by
  constructor <;>
    simp [entry, placement, h, Json.strs, Json.member?, Json.lookupLast, List.lookup_cons]

/-- What an entry says of its record, whatever is known of where the backend runs. -/
theorem asked_entry (ctx : Context) (group : String) (r : BackendRecord) :
    (entry ctx group r).member? "ip" = some (.str r.ip) ∧
    (entry ctx group r).member? "inst_type" = some (.str r.kind) ∧
    (entry ctx group r).member? "port" = some (.nat (r.firstBackendPort?.getD 0)) ∧
    (entry ctx group r).member? "weight" = some (.int (r.weight.getD 0)) ∧
    (entry ctx group r).member? "account_id" = some (.str ctx.account) ∧
    (entry ctx group r).member? "target_group_id" = some (.str group) := by
  cases hinst : r.inst with
  | none => simp [entry, placement, hinst, Json.member?, Json.lookupLast, List.lookup_cons]
  | some i =>
    by_cases hzone : i.zone = "" <;>
      simp [entry, placement, hinst, hzone, Json.member?, Json.lookupLast, List.lookup_cons]

/-- **The entry of a well formed record that is placed says what the record asks for.** -/
theorem faithful_entry (ctx : Context) {group : String} {r : BackendRecord} (hr : r.WellFormed)
    (hplaced : r.Placed cloud) (hgroup : r.targetGroup = some group) :
    Faithful ctx cloud group r (entry ctx group r) := by
  obtain ⟨port, hports, hport⟩ := hr.backendPort
  obtain ⟨weight, hweight, hlow, hhigh⟩ := hr.weight
  obtain ⟨hip, hkind, hfirst, hnamed, haccount, htold⟩ := asked_entry ctx group r
  rw [BackendRecord.firstBackendPort?, hports] at hfirst
  rw [hweight] at hnamed
  refine ⟨hip, ⟨port, hports, hport, hfirst⟩, ⟨weight, hweight, hlow, hhigh, hnamed⟩, haccount,
    ⟨hgroup, htold⟩, hkind, ?_⟩
  rcases hr.kind with hkind | hkind
  · obtain ⟨i, hi, hip, hinst⟩ := hplaced.compute hkind
    exact .inl ⟨hkind, i, hi, hip, onInstance_entry ctx group hinst⟩
  · exact .inr ⟨hkind, byAddress_entry ctx group (hplaced.other hkind)⟩

/-- Plans carry the records of some items: each item has a plan and a target group, each task is about
a target group, and for a target group a plan lists one entry for each of its items, in order, which
says what the record of the item asks for. -/
structure Carried (ctx : Context) (cloud : Cloud) (items : List (Uuid × BackendRecord))
    (plans : List Plan) : Prop where
  planned : ∀ item ∈ items, (∃ p ∈ plans, lbId item.2 = some p.lbId) ∧
    ∃ group, item.2.targetGroup = some group
  grouped : ∀ p ∈ plans, ∀ t ∈ p.tasks, ∃ group, groupOf? t = some group
  listed : ∀ p ∈ plans, ∀ group, List.Forall₂ (fun item e => Faithful ctx cloud group item.2 e)
    (items.filter fun item => lbId item.2 = some p.lbId ∧ item.2.targetGroup = some group)
    (sentTo group p)

variable {limits : Limits} {rs validated : List BackendRecord} {items : List (Uuid × BackendRecord)}
  {plans : List Plan}

theorem carried_of_compile (hwell : ∀ item ∈ items, item.2.WellFormed)
    (hplaced : ∀ item ∈ items, item.2.Placed cloud) (hready : ∀ item ∈ items, item.2.Ready)
    (h : compile ctx limits items = .ok plans) : Carried ctx cloud items plans := by
  constructor
  case planned =>
    intro item hi
    exact ⟨(compile_ok h).exists_plan hi, Option.isSome_iff_exists.mp (hready item hi).2⟩
  case grouped =>
    intro p hp t ht
    obtain ⟨group, -, -, hgroup, -⟩ := (compile_listed h hp).tasks t ht
    exact ⟨group, by rw [groupOf?, hgroup]; rfl⟩
  case listed =>
    intro p hp group
    rw [sentTo_eq h hp, List.forall₂_map_right_iff, List.forall₂_same]
    intro item hi
    obtain ⟨hmem, hkeys⟩ := List.mem_filter.mp hi
    exact faithful_entry ctx (hwell item hmem) (hplaced item hmem) (of_decide_eq_true hkeys).2

/-- A backend that can be executed is well formed. -/
theorem wellFormed_of_validateRecords
    (h : (validateRecords backendRules ctx cloud rs).1 = .ok validated) :
    ∀ v ∈ validated, isExecutable v = true → v.WellFormed :=
  BalancerImport.wellFormed_of_validateRecords (BackendRules.yielding cloud)
    BackendRules.annotating (fun _ => BackendRecord.wellFormed_bare) h

/-- It is placed, if nothing was noted on it before. -/
theorem placed_of_validateRecords (hunresolved : ∀ r ∈ rs, Unresolved r)
    (h : (validateRecords backendRules ctx cloud rs).1 = .ok validated) :
    ∀ v ∈ validated, isExecutable v = true → v.Placed cloud := by
  intro v hv hexecutable
  obtain ⟨i, hi⟩ := List.mem_iff_getElem?.mp hv
  obtain ⟨r, checked, hcandidate, hbare, hhosted, hchecked⟩ := asked_of_validateRecords
    (BackendRules.yielding cloud) BackendRules.annotating h hi hexecutable
  have hr : r ∈ rs := List.mem_of_getElem? hcandidate.listed
  have hbare : bare v = bare r.canonical := hbare
  have hnone : r.canonical.inst = none := by
    simpa only [BackendRecord.canonical] using (BackendRecord.unresolved_iff.mp (hunresolved r hr)).2.2
  have hcvm := BackendRecord.kind?_canonical r .cvm
  generalize r.canonical = c at hbare hhosted hnone hcvm
  have hinst : v.inst = checked.inst := by rw [hchecked]; rfl
  have hkind : v.kind = c.kind := (congrArg BackendRecord.kind hbare :)
  have hip : v.ip = c.ip := (congrArg BackendRecord.ip hbare :)
  constructor
  case compute =>
    intro hcompute
    obtain ⟨hsome, hfound⟩ := hhosted.compute (hcvm.mpr (hkind.symm.trans hcompute))
    obtain ⟨i, hi⟩ := Option.isSome_iff_exists.mp hsome
    have hfind : cloud.instanceOf? c = some i := hfound.symm.trans hi
    refine ⟨i, List.mem_of_find?_eq_some hfind, ?_, hinst.trans hi⟩
    simpa [hip] using List.find?_some hfind
  case other =>
    intro hother
    have hnot : c.kind? ≠ some .cvm := fun hk =>
      absurd ((hcvm.mp hk).symm.trans (hkind.symm.trans hother)) (by decide)
    exact hinst.trans ((hhosted.other hnot).trans hnone)

end BackendPlan

/-! ## Both kinds of record -/

/-- **The plans of a validation carry its records.** Where batches have room, the records of a
validation that can be executed have plans; and whatever plans they have, the entries of the tasks
say what the records ask for, and for backends where they run. -/
theorem compile_faithful (ctx : Context) (limits : Limits) (cloud : Cloud) :
    (∀ (rs validated : List ListenerRecord) (items : List (Uuid × ListenerRecord)),
      (validateRecords listenerRules ctx cloud rs).1 = .ok validated →
      items.map Prod.snd = validated.filter isExecutable →
      (limits.listeners ≠ 0 → ∃ plans, ListenerPlan.compile ctx limits items = .ok plans) ∧
      ∀ plans, ListenerPlan.compile ctx limits items = .ok plans →
        ListenerPlan.Carried items plans) ∧
    ∀ (rs validated : List BackendRecord) (items : List (Uuid × BackendRecord)),
      (∀ r ∈ rs, Unresolved r) → (validateRecords backendRules ctx cloud rs).1 = .ok validated →
      items.map Prod.snd = validated.filter isExecutable →
      (limits.backends ≠ 0 → ∃ plans, BackendPlan.compile ctx limits items = .ok plans) ∧
      ∀ plans, BackendPlan.compile ctx limits items = .ok plans →
        BackendPlan.Carried ctx cloud items plans := by
  constructor
  · intro rs validated items h hitems
    have hready := forall_items hitems (ready_of_validateRecords ListenerRules.resolves h)
    have hwell := forall_items hitems (ListenerPlan.wellFormed_of_validateRecords h)
    refine ⟨fun hlimit => ?_, fun plans => ListenerPlan.carried_of_compile hwell⟩
    obtain ⟨plans, hplans, -⟩ := ListenerPlan.compile_total hlimit hready
    exact ⟨plans, hplans⟩
  · intro rs validated items hunresolved h hitems
    have hready := forall_items hitems (ready_of_validateRecords BackendRules.resolves h)
    have hwell := forall_items hitems (BackendPlan.wellFormed_of_validateRecords h)
    have hplaced := forall_items hitems (BackendPlan.placed_of_validateRecords hunresolved h)
    refine ⟨fun hlimit => ?_, fun plans => BackendPlan.carried_of_compile hwell hplaced hready⟩
    obtain ⟨plans, hplans, -⟩ := BackendPlan.compile_total hlimit hready
    exact ⟨plans, hplans⟩

/-- A listener on two ports is named after the first one; and of two backends that can be bound the
one on an instance names it. -/
theorem compile_faithful_served :
    (∃ validated plans,
      (validateRecords listenerRules servingContext servingCloud servingRecords).1 = .ok validated ∧
      ListenerPlan.compile servingContext .standard
        (List.zip [⟨0⟩] (validated.filter isExecutable)) = .ok plans ∧
      plans.map (fun p => (ListenerPlan.sent p).map fun e => (e.member? "name").bind Json.str?) =
        [[some "HTTP-80"]] ∧
      ListenerPlan.Carried (List.zip [⟨0⟩] (validated.filter isExecutable)) plans) ∧
    ∃ validated plans,
      (validateRecords backendRules bindingContext bindingCloud bindableRecords).1 = .ok validated ∧
      BackendPlan.compile bindingContext .standard
        (List.zip [⟨0⟩, ⟨1⟩] (validated.filter isExecutable)) = .ok plans ∧
      plans.map (fun p => (BackendPlan.sentTo "tg-1" p).map fun e =>
        (e.member? "cloud_inst_id").bind Json.str?) = [[some "ins-1", none]] ∧
      BackendPlan.Carried bindingContext bindingCloud
        (List.zip [⟨0⟩, ⟨1⟩] (validated.filter isExecutable)) plans := by
  constructor
  · have hone : (validateRecords listenerRules servingContext servingCloud servingRecords).1.map
        (fun vs => (vs.filter isExecutable).length) = .ok ([⟨0⟩] : List Uuid).length := by
      decide +kernel
    have hnames : (validateRecords listenerRules servingContext servingCloud servingRecords).1.map
        (fun vs => (ListenerPlan.compile servingContext .standard
          (List.zip [⟨0⟩] (vs.filter isExecutable))).map (List.map fun p =>
            (ListenerPlan.sent p).map fun e => (e.member? "name").bind Json.str?)) =
        .ok (.ok [[some "HTTP-80"]]) := by decide +kernel
    obtain ⟨validated, hvalidated, hitems⟩ := exists_items hone
    obtain ⟨htotal, hcarried⟩ := (compile_faithful servingContext .standard servingCloud).1
      servingRecords validated _ hvalidated hitems
    obtain ⟨plans, hplans⟩ := htotal (by decide)
    rw [hvalidated] at hnames
    obtain ⟨plans', hplans', hmap⟩ := map_ok (Except.ok.inj hnames)
    obtain rfl := Except.ok.inj (hplans.symm.trans hplans')
    exact ⟨validated, plans, hvalidated, hplans, hmap, hcarried plans hplans⟩
  · have htwo : (validateRecords backendRules bindingContext bindingCloud bindableRecords).1.map
        (fun vs => (vs.filter isExecutable).length) = .ok ([⟨0⟩, ⟨1⟩] : List Uuid).length := by
      decide +kernel
    have hinstances : (validateRecords backendRules bindingContext bindingCloud bindableRecords).1.map
        (fun vs => (BackendPlan.compile bindingContext .standard
          (List.zip [⟨0⟩, ⟨1⟩] (vs.filter isExecutable))).map (List.map fun p =>
            (BackendPlan.sentTo "tg-1" p).map fun e =>
              (e.member? "cloud_inst_id").bind Json.str?)) =
        .ok (.ok [[some "ins-1", none]]) := by decide +kernel
    have hunresolved : ∀ r ∈ bindableRecords, Unresolved r := by
      simp only [bindableRecords, List.forall_mem_cons, BackendRecord.unresolved_iff]
      decide
    obtain ⟨validated, hvalidated, hitems⟩ := exists_items htwo
    obtain ⟨htotal, hcarried⟩ := (compile_faithful bindingContext .standard bindingCloud).2
      bindableRecords validated _ hunresolved hvalidated hitems
    obtain ⟨plans, hplans⟩ := htotal (by decide)
    rw [hvalidated] at hinstances
    obtain ⟨plans', hplans', hmap⟩ := map_ok (Except.ok.inj hinstances)
    obtain rfl := Except.ok.inj (hplans.symm.trans hplans')
    exact ⟨validated, plans, hvalidated, hplans, hmap, hcarried plans hplans⟩

end BalancerImport
