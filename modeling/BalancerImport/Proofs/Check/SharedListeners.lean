import BalancerImport.Proofs.Check.Caching

/-!
# Listeners that balancers share

Answers about rules are kept by listener, domain and path. Listeners have ids of their own, so that
the balancer is not part of the key; where two balancers do have listeners with one id, the second one
gets the answer for the first.

* `BackendRules.ruleQueries`: the questions about rules that a batch asks;
* **`BackendRules.checkAll_of_answers`**: where those with one key have one answer, a batch is checked
  as if the cloud were asked each time;
* `BackendRules.checkAll_shared`: where they have not, it is not, as a cloud with two balancers and
  one listener id shows.
-/

namespace BalancerImport.BackendRules

/-- The questions about rules that the survivors of a batch ask. -/
def ruleQueries (cloud : Cloud) (screened : List (Screened BackendRecord)) : List RuleQuery :=
  (screened.filter Screened.survives).filterMap fun s => ruleQuery? cloud s.record

/-- **Backends are checked as if the cloud were asked for each record**, with the same records and the
same errors, if questions about rules that are kept under one key have one answer. -/
theorem checkAll_of_answers (cloud : Cloud) (screened : List (Screened BackendRecord))
    (hanswers : ∀ q ∈ ruleQueries cloud screened, ∀ q' ∈ ruleQueries cloud screened,
      q.key = q'.key → cloud.ruleFor q = cloud.ruleFor q') :
    (backendRules.checkAll cloud screened).1 =
      checkSurvivors (backendRules.check (Lookups.direct cloud)) screened := by
  have hkeys : cloud.AnswersByKey (· ∈ ruleQueries cloud screened) :=
    fun q q' hq hq' => hanswers q hq q' hq'
  refine checkAll_eq fun s hs hsurvives => tracks hkeys fun q hq => ?_
  exact List.mem_filterMap.mpr ⟨s, List.mem_filter.mpr ⟨hs, hsurvives⟩, hq⟩

/-! ## Two balancers with one listener id -/

/-- A balancer of the operator. -/
def sharedBalancer (id cloudId vip : String) : LoadBalancer :=
  { id := id, cloudId := cloudId, vendor := .tcloud, account := "acc-1", business := 100,
    region := "ap-guangzhou", domain := "", privateV4 := [], privateV6 := [], publicV4 := [vip],
    publicV6 := [] }

/-- A listener with the one id. -/
def sharedListener (id balancer : String) : Listener :=
  { id := id, cloudId := "lbl-1", balancer := balancer, protocol := .http, port := 80,
    endPort := none, sni := false, certificate := none }

/-- Two balancers with listeners of one id, of which only the first has a rule. -/
def sharedCloud : Cloud := .ofSnapshot { Snapshot.empty with
  balancers := [sharedBalancer "000001" "lb-1" "1.1.1.1", sharedBalancer "000002" "lb-2" "2.2.2.2"]
  listeners := [sharedListener "l1" "lb-1", sharedListener "l2" "lb-2"]
  rules := [{ id := "r1", cloudId := "loc-1", balancer := "lb-1", listener := "lbl-1",
              domain := "a.com", url := "/", targetGroup := some "tg-1" }] }

/-- The operator of the cloud. -/
def sharedContext : Context :=
  { vendor := .tcloud, business := 100, account := "acc-1", regions := ["ap-guangzhou"] }

/-- A backend to be bound to the rule of a balancer. -/
def sharedRecord (balancer vip domain : String) : BackendRecord :=
  { BackendRecord.blank with
    vip := vip, balancer := balancer, protocol := "HTTP", ports := [80], domain := domain,
    path := "/", kind := "ENI", ip := "10.0.0.1", backendPorts := [8080], weight := some 10 }

/-- A batch of which both records survive the common check. -/
def sharedBatch (domain : String) : List (Screened BackendRecord) :=
  [{ record := { sharedRecord "lb-1" "1.1.1.1" "a.com" with lbId := some "000001" }
     survives := true },
    { record := { sharedRecord "lb-2" "2.2.2.2" domain with lbId := some "000002" }
      survives := true }]

/-- The cloud with one backend that is bound, and the instance it is. -/
def boundCloud : Cloud := { sharedCloud with snapshot := { sharedCloud.snapshot with
  targets := [{ targetGroup := "tg-1", ip := "10.0.0.1", port := 8080, weight := 10, kind := .cvm }]
  instances := [{ id := "i1", cloudId := "ins-1", name := "web", privateV4 := ["10.0.0.1"],
                  publicV4 := [], vpcs := [], zone := "" }] } }

/-- Two ports of one instance for one rule, and a backend for another domain of the other
balancer. -/
def boundBatch : List (Screened BackendRecord) :=
  let atPort := fun port => { sharedRecord "lb-1" "1.1.1.1" "a.com" with
    lbId := some "000001", kind := "CVM", backendPorts := [port] }
  [{ record := atPort 8080, survives := true }, { record := atPort 8081, survives := true },
    { record := { sharedRecord "lb-2" "2.2.2.2" "b.com" with lbId := some "000002" }
      survives := true }]

/-- If the rules are for two domains, nothing is confused. The second record is checked with the
listeners, the rule, the target group and the instance that were looked up for the first. -/
theorem checkAll_of_answers_apart :
    (ruleQueries boundCloud boundBatch).map RuleQuery.key =
      [("lbl-1", "a.com", "/"), ("lbl-1", "a.com", "/"), ("lbl-1", "b.com", "/")] ∧
    (∀ q ∈ ruleQueries boundCloud boundBatch, ∀ q' ∈ ruleQueries boundCloud boundBatch,
      q.key = q'.key → boundCloud.ruleFor q = boundCloud.ruleFor q') ∧
    (backendRules.checkAll boundCloud boundBatch).1 =
      checkSurvivors (backendRules.check (Lookups.direct boundCloud)) boundBatch ∧
    ((backendRules.checkAll boundCloud boundBatch).1.map fun rs =>
        rs.map fun r => (r.state.status, r.targetGroup, r.inst.map Instance.id)) =
      .ok [(.existing, some "tg-1", some "i1"), (.unvalidated, some "tg-1", some "i1"),
        (.notExecutable, none, none)] ∧
    (backendRules.checkAll boundCloud boundBatch).2 = 2 := by
  have hanswers : ∀ q ∈ ruleQueries boundCloud boundBatch, ∀ q' ∈ ruleQueries boundCloud boundBatch,
      q.key = q'.key → boundCloud.ruleFor q = boundCloud.ruleFor q' := by
    decide +kernel
  exact ⟨by decide +kernel, hanswers, checkAll_of_answers boundCloud boundBatch hanswers,
    by decide +kernel, by decide +kernel⟩

/-- **If they are for one domain, the second record gets the target group of the first**, while the
cloud has no rule for it. -/
theorem checkAll_shared :
    checkBalancers sharedContext sharedCloud
        [sharedRecord "lb-1" "1.1.1.1" "a.com", sharedRecord "lb-2" "2.2.2.2" "a.com"] =
      .ok (sharedBatch "a.com") ∧
    (backendRules.checkAll sharedCloud (sharedBatch "a.com")).1 ≠
      checkSurvivors (backendRules.check (Lookups.direct sharedCloud)) (sharedBatch "a.com") ∧
    ((backendRules.checkAll sharedCloud (sharedBatch "a.com")).1.map fun rs =>
        rs.map fun r => (r.state.status, r.targetGroup)) =
      .ok [(.unvalidated, some "tg-1"), (.unvalidated, some "tg-1")] ∧
    ((checkSurvivors (backendRules.check (Lookups.direct sharedCloud)) (sharedBatch "a.com")).map
        fun rs => rs.map fun r => (r.state.status, r.targetGroup)) =
      .ok [(.unvalidated, some "tg-1"), (.notExecutable, none)] := by
  decide +kernel

end BalancerImport.BackendRules
