import BalancerImport.Proofs.Check.Length

/-!
# Asking once

Rules that ask through caches come to the same results as rules that ask the cloud each time. Only
the cache of rules takes something for granted: it keeps them by listener and not by balancer, so
questions that are kept under one key have to have one answer.

* `RuleQuery`: a question about a rule; `Cloud.AnswersByKey`: questions that are not confused;
* `Cache.Holds`, `Caches.Faithful`: caches whose entries are the cloud's answers;
* `Asking.Tracks`: a check with caches that does what a check without does;
* `Lookups.direct_listeners` and the like: the answers of a cloud that can be reached;
* `ListenerRules.tracks`, `BackendRules.tracks`: the rules of the vendor;
* **`checkAll_eq`**: a whole batch;
* `Cloud.ListenersApart`: listeners with one id belong to one balancer, as is the rule;
  `ListenerRules.transparent`, `BackendRules.transparent`: then all batches are checked so.
-/

namespace BalancerImport

/-! ## Caches -/

namespace Cache

variable {κ ν : Type} [BEq κ] [LawfulBEq κ] {P : κ → ν → Prop} {c : Cache κ ν}

/-- All entries of a cache have a property. -/
def Holds (P : κ → ν → Prop) (c : Cache κ ν) : Prop :=
  ∀ key v, c.entries.lookup key = some v → P key v

omit [LawfulBEq κ] in
theorem holds_empty : Holds P (Cache.empty : Cache κ ν) := fun _ _ h => nomatch h

/-- A cache that holds nothing but answers gives the answer, and holds nothing else afterwards. -/
theorem fetch_of_holds (query : κ → Except CloudError ν) (key : κ) (hc : c.Holds P)
    (hkey : ∀ v, P key v ↔ query key = .ok v) :
    (c.fetch query key).1 = asked (query key) ∧ (c.fetch query key).2.Holds P := by
  unfold fetch
  split
  · rename_i v hv
    rw [(hkey v).mp (hc key v hv)]
    exact ⟨rfl, hc⟩
  · split
    · rename_i v hv
      rw [hv]
      refine ⟨rfl, fun key' v' h => ?_⟩
      rw [List.lookup_cons] at h
      split at h
      · rename_i heq
        obtain rfl := Option.some.inj h
        rw [eq_of_beq heq]
        exact (hkey v).mpr hv
      · exact hc key' v' h
    · rename_i e he
      rw [he]
      exact ⟨rfl, hc⟩

end Cache

/-- A question about a rule. -/
structure RuleQuery where
  balancer : String
  listener : String
  domain : String
  url : String
  deriving DecidableEq, Repr

/-- The key under which the answer is kept. -/
def RuleQuery.key (q : RuleQuery) : String × String × String := (q.listener, q.domain, q.url)

theorem RuleQuery.eq_of_key {q q' : RuleQuery} (hbalancer : q.balancer = q'.balancer)
    (hkey : q.key = q'.key) : q = q' := by
  cases q
  cases q'
  simp_all [key]

/-- The answer to a question about a rule. -/
def Cloud.ruleFor (cloud : Cloud) (q : RuleQuery) : Except CloudError (Option UrlRule) :=
  cloud.urlRule? q.balancer q.listener q.domain q.url

/-- Of the questions that are asked, those with one key have one answer. -/
def Cloud.AnswersByKey (cloud : Cloud) (asks : RuleQuery → Prop) : Prop :=
  ∀ q q', asks q → asks q' → q.key = q'.key → cloud.ruleFor q = cloud.ruleFor q'

/-- The entries of all caches are the cloud's answers. A rule is kept without its balancer, and has to
be the answer to every question with its key that is asked. -/
structure Caches.Faithful (cloud : Cloud) (asks : RuleQuery → Prop) (c : Caches) : Prop where
  listeners : c.listeners.Holds fun key v => cloud.listenersAt key.1 key.2 = .ok v
  rules : c.rules.Holds fun key v => ∀ q, asks q → q.key = key → cloud.ruleFor q = .ok v
  targets : c.targets.Holds fun key v => cloud.targetsOf key = .ok v
  instances : c.instances.Holds fun key v => cloud.instanceAt? key = .ok v

theorem Caches.faithful_empty (cloud : Cloud) (asks : RuleQuery → Prop) :
    Caches.empty.Faithful cloud asks :=
  ⟨Cache.holds_empty, Cache.holds_empty, Cache.holds_empty, Cache.holds_empty⟩

/-! ## Checks -/

namespace Asking

variable {α β : Type} {cloud : Cloud} {asks : RuleQuery → Prop}

/-- A check with caches does what a check without does, and leaves the caches faithful. -/
def Tracks (cloud : Cloud) (asks : RuleQuery → Prop) (x : Asking α) (y : Except CheckError α) :
    Prop :=
  ∀ c : Caches, c.Faithful cloud asks → (x.run c).1 = y ∧ (x.run c).2.Faithful cloud asks

theorem Tracks.pure (a : α) : Tracks cloud asks (Pure.pure a) (Pure.pure a) :=
  fun _ hc => ⟨rfl, hc⟩

theorem Tracks.throw (e : CheckError) : Tracks cloud asks (throw e : Asking α) (throw e) :=
  fun _ hc => ⟨rfl, hc⟩

theorem Tracks.bind {x : Asking α} {y : Except CheckError α} {f : α → Asking β}
    {g : α → Except CheckError β} (hx : Tracks cloud asks x y)
    (hf : ∀ a, y = .ok a → Tracks cloud asks (f a) (g a)) :
    Tracks cloud asks (x >>= f) (y >>= g) := by
  intro c hc
  obtain ⟨hy, hc₁⟩ := hx c hc
  rw [run_bind]
  cases hrun : x.run c with
  | mk answer c₁ =>
    rw [hrun] at hy hc₁
    subst hy
    cases answer with
    | error e => exact ⟨rfl, hc₁⟩
    | ok a => exact hf a rfl c₁ hc₁

end Asking

namespace Lookups

open Asking

section

variable {cloud : Cloud} (hcloud : cloud.outage = none)

include hcloud

theorem direct_listeners (balancer : String) (port : Nat) :
    (direct cloud).listeners balancer port = .ok (cloud.snapshot.listeners.filter fun l =>
      l.balancer == balancer && l.port == port) := by
  simp only [direct, Cloud.listenersAt, Cloud.answer, hcloud, asked, Except.mapError]

theorem direct_rule (balancer listener domain url : String) :
    (direct cloud).rule balancer listener domain url = .ok (cloud.snapshot.rules.find? fun u =>
      u.balancer == balancer && u.listener == listener && u.domain == domain && u.url == url) := by
  simp only [direct, Cloud.urlRule?, Cloud.answer, hcloud, asked, Except.mapError]

theorem direct_targets (group : String) : (direct cloud).targets group =
    .ok (cloud.snapshot.targets.filter fun t => t.targetGroup == group) := by
  simp only [direct, Cloud.targetsOf, Cloud.answer, hcloud, asked, Except.mapError]

theorem direct_inst (ip : String) : (direct cloud).inst ip =
    .ok (cloud.snapshot.instances.find? fun i => i.privateV4.contains ip) := by
  simp only [direct, Cloud.instanceAt?, Cloud.answer, hcloud, asked, Except.mapError]

end

variable (cloud : Cloud) (asks : RuleQuery → Prop)

theorem tracks_listeners (balancer : String) (port : Nat) :
    Tracks cloud asks ((cached cloud).listeners balancer port)
      ((direct cloud).listeners balancer port) := by
  intro c hc
  obtain ⟨hanswer, hholds⟩ := Cache.fetch_of_holds
    (fun key => cloud.listenersAt key.1 key.2) (balancer, port) hc.listeners fun v => Iff.rfl
  exact ⟨hanswer, hholds, hc.rules, hc.targets, hc.instances⟩

theorem tracks_targets (group : String) :
    Tracks cloud asks ((cached cloud).targets group) ((direct cloud).targets group) := by
  intro c hc
  obtain ⟨hanswer, hholds⟩ :=
    Cache.fetch_of_holds cloud.targetsOf group hc.targets fun v => Iff.rfl
  exact ⟨hanswer, hc.listeners, hc.rules, hholds, hc.instances⟩

theorem tracks_inst (ip : String) :
    Tracks cloud asks ((cached cloud).inst ip) ((direct cloud).inst ip) := by
  intro c hc
  obtain ⟨hanswer, hholds⟩ :=
    Cache.fetch_of_holds cloud.instanceAt? ip hc.instances fun v => Iff.rfl
  exact ⟨hanswer, hc.listeners, hc.rules, hc.targets, hholds⟩

variable {cloud} {asks}

/-- A question about a rule gets its answer, if no other question with its key has another one. -/
theorem tracks_rule (hkeys : cloud.AnswersByKey asks) {q : RuleQuery} (hq : asks q) :
    Tracks cloud asks ((cached cloud).rule q.balancer q.listener q.domain q.url)
      ((direct cloud).rule q.balancer q.listener q.domain q.url) := by
  intro c hc
  have hkey : ∀ v, (∀ q', asks q' → q'.key = q.key → cloud.ruleFor q' = .ok v) ↔
      cloud.ruleFor q = .ok v :=
    fun v => ⟨fun h => h q hq rfl, fun h q' hq' he => (hkeys q' q hq' hq he).trans h⟩
  obtain ⟨hanswer, hholds⟩ := Cache.fetch_of_holds
    (fun key : String × String × String => cloud.urlRule? q.balancer key.1 key.2.1 key.2.2) q.key
    hc.rules hkey
  exact ⟨hanswer, hc.listeners, hholds, hc.targets, hc.instances⟩

end Lookups

/-! ## The rules of the vendor -/

variable {R : Type} {cloud : Cloud} {asks : RuleQuery → Prop}

theorem ListenerRules.tracks (cloud : Cloud) (asks : RuleQuery → Prop) (r : ListenerRecord) :
    Asking.Tracks cloud asks (listenerRules.check (Lookups.cached cloud) r)
      (listenerRules.check (Lookups.direct cloud) r) := by
  simp only [listenerRules, check]
  split
  · exact Asking.Tracks.pure r
  · refine (Lookups.tracks_listeners cloud asks _ _).bind fun existing _ => ?_
    split
    · exact Asking.Tracks.pure _
    · exact Asking.Tracks.throw _

/-- The question about a rule that the rules for backends ask about a record: for the first listener
but for UDP on its balancer and its port, if that has its protocol. -/
def BackendRules.ruleQuery? (cloud : Cloud) (r : BackendRecord) : Option RuleQuery := do
  let port ← r.firstPort?
  let listeners ← (asked (cloud.listenersAt r.balancer port)).toOption
  let l ← listeners.find? fun l => l.protocol != .udp
  if r.protocol? = some l.protocol then
    some { balancer := r.balancer, listener := l.cloudId, domain := r.domain, url := r.path }
  else none

theorem BackendRules.ruleQuery?_eq {r : BackendRecord} {port : Nat} {listeners : List Listener}
    {l : Listener} (hport : r.firstPort? = some port)
    (hlisteners : asked (cloud.listenersAt r.balancer port) = .ok listeners)
    (hl : (listeners.find? fun l => l.protocol != .udp) = some l)
    (hprotocol : r.protocol? = some l.protocol) : ruleQuery? cloud r =
      some { balancer := r.balancer, listener := l.cloudId, domain := r.domain, url := r.path } := by
  simp only [ruleQuery?, hport, hlisteners, Except.toOption, hl, hprotocol, if_true,
    Option.bind_eq_bind, Option.bind_some]

theorem BackendRules.tracks (hkeys : cloud.AnswersByKey asks) {r : BackendRecord}
    (hr : ∀ q, ruleQuery? cloud r = some q → asks q) :
    Asking.Tracks cloud asks (backendRules.check (Lookups.cached cloud) r)
      (backendRules.check (Lookups.direct cloud) r) := by
  simp only [backendRules, check]
  split
  · exact Asking.Tracks.pure r
  · rename_i port hport
    refine (Lookups.tracks_listeners cloud asks _ _).bind fun listeners hlisteners => ?_
    split
    · exact Asking.Tracks.pure _
    · rename_i l hl
      split
      · exact Asking.Tracks.pure _
      · rename_i hprotocol
        have hq := hr _ (ruleQuery?_eq hport hlisteners hl (not_ne_iff.mp hprotocol))
        refine (Lookups.tracks_rule hkeys hq).bind fun rule _ => ?_
        split
        · exact Asking.Tracks.pure _
        · split
          · exact Asking.Tracks.pure _
          · refine (Lookups.tracks_targets cloud asks _).bind fun targets _ => ?_
            split
            · exact (Lookups.tracks_inst cloud asks _).bind fun found _ => Asking.Tracks.pure _
            · exact Asking.Tracks.pure _

/-! ## Batches -/

theorem tracks_checkSurvivors {check : R → Asking R} {check' : R → Except CheckError R} :
    ∀ {screened : List (Screened R)}, (∀ s ∈ screened, s.survives = true →
      Asking.Tracks cloud asks (check s.record) (check' s.record)) →
      Asking.Tracks cloud asks (checkSurvivors check screened) (checkSurvivors check' screened)
  | [], _ => Asking.Tracks.pure []
  | s :: screened, hcheck => by
    have hrest : ∀ r : R, Asking.Tracks cloud asks
        (checkSurvivors check screened >>= fun rs => pure (r :: rs))
        (checkSurvivors check' screened >>= fun rs => pure (r :: rs)) := fun r =>
      (tracks_checkSurvivors fun s hs => hcheck s (List.mem_cons_of_mem _ hs)).bind fun rs _ =>
        Asking.Tracks.pure _
    rw [checkSurvivors, checkSurvivors]
    split
    · rename_i hs
      exact (hcheck s List.mem_cons_self hs).bind fun r _ => hrest r
    · exact hrest s.record

/-- **A batch is checked as if the cloud were asked each time**, if its survivors are. -/
theorem checkAll_eq {rules : VendorRules R} {screened : List (Screened R)}
    (h : ∀ s ∈ screened, s.survives = true → Asking.Tracks cloud asks
      (rules.check (Lookups.cached cloud) s.record) (rules.check (Lookups.direct cloud) s.record)) :
    (rules.checkAll cloud screened).1 =
      checkSurvivors (rules.check (Lookups.direct cloud)) screened :=
  (tracks_checkSurvivors h Caches.empty (Caches.faithful_empty cloud asks)).1

/-! ## Clouds in which nothing is confused -/

/-- Rules that check every batch as if the cloud were asked each time. -/
def VendorRules.Transparent (rules : VendorRules R) (cloud : Cloud) : Prop :=
  ∀ screened, (rules.checkAll cloud screened).1 =
    checkSurvivors (rules.check (Lookups.direct cloud)) screened

theorem ListenerRules.transparent (cloud : Cloud) : listenerRules.Transparent cloud :=
  fun _ => checkAll_eq fun s _ _ => tracks cloud (fun _ => False) s.record

/-- Listeners with one id belong to one balancer. -/
def Cloud.ListenersApart (cloud : Cloud) : Prop :=
  ∀ l ∈ cloud.snapshot.listeners, ∀ l' ∈ cloud.snapshot.listeners, l.cloudId = l'.cloudId →
    l.balancer = l'.balancer

/-- What a cloud answers about the listeners on a port. -/
theorem Cloud.mem_of_listenersAt {balancer : String} {port : Nat} {ls : List Listener}
    {l : Listener} (h : asked (cloud.listenersAt balancer port) = .ok ls) (hl : l ∈ ls) :
    l ∈ cloud.snapshot.listeners ∧ l.balancer = balancer ∧ l.port = port := by
  unfold Cloud.listenersAt Cloud.answer at h
  split at h
  · exact nomatch h
  · obtain rfl := Except.ok.inj h
    simpa using List.mem_filter.mp hl

/-- A question about a rule is asked for a listener of the cloud. -/
theorem BackendRules.listener_of_ruleQuery? {r : BackendRecord} {q : RuleQuery}
    (h : ruleQuery? cloud r = some q) :
    ∃ l ∈ cloud.snapshot.listeners, l.cloudId = q.listener ∧ l.balancer = q.balancer := by
  simp only [ruleQuery?, Option.bind_eq_bind, Option.bind_eq_some_iff, Option.ite_none_right_eq_some,
    Option.some.injEq] at h
  obtain ⟨port, -, listeners, hlisteners, l, hl, -, rfl⟩ := h
  have hanswer : asked (cloud.listenersAt r.balancer port) = .ok listeners := by
    cases hasked : asked (cloud.listenersAt r.balancer port) with
    | error e =>
      rw [hasked] at hlisteners
      exact nomatch hlisteners
    | ok ls =>
      rw [hasked] at hlisteners
      exact congrArg Except.ok (Option.some.inj hlisteners)
  obtain ⟨hmem, hbalancer, -⟩ := Cloud.mem_of_listenersAt hanswer (List.mem_of_find?_eq_some hl)
  exact ⟨l, hmem, rfl, hbalancer⟩

/-- Questions with one key are asked for one balancer. -/
theorem Cloud.ListenersApart.answersByKey (h : cloud.ListenersApart) :
    cloud.AnswersByKey fun q => ∃ r, BackendRules.ruleQuery? cloud r = some q := by
  rintro q q' ⟨r, hr⟩ ⟨r', hr'⟩ he
  obtain ⟨l, hl, hid, hbalancer⟩ := BackendRules.listener_of_ruleQuery? hr
  obtain ⟨l', hl', hid', hbalancer'⟩ := BackendRules.listener_of_ruleQuery? hr'
  have hlistener : q.listener = q'.listener := congrArg Prod.fst he
  have hsame : l.balancer = l'.balancer := h l hl l' hl' (hid.trans (hlistener.trans hid'.symm))
  rw [RuleQuery.eq_of_key (hbalancer.symm.trans (hsame.trans hbalancer')) he]

theorem BackendRules.transparent (hapart : cloud.ListenersApart) :
    backendRules.Transparent cloud :=
  fun _ => checkAll_eq fun s _ _ => tracks hapart.answersByKey fun _ hq => ⟨s.record, hq⟩

end BalancerImport
