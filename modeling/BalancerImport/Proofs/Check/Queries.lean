import BalancerImport.Proofs.Check.Listeners

/-!
# Listener queries

How often a batch asks the cloud for listeners: once for each pair of a balancer and a port that its
survivors ask about, whatever the answers are, as long as they are answers.

* `Cache.Asked`: a cache with answers for some keys, and one query for each;
* `Asking.Adds`: a check that asks for the listeners under some keys;
* `listenerKey?`, `listenerKeys`: what records ask for; `adds_checkSurvivors`: what a batch does;
* **`checkAll_queries`**: the number of queries, for both kinds of records.
-/

namespace BalancerImport

/-! ## Keys -/

namespace Cache

variable {κ ν : Type} [BEq κ] [LawfulBEq κ] {c : Cache κ ν} {keys : List κ}

/-- A cache with answers for keys, each of which was asked for once. -/
structure Asked (keys : List κ) (c : Cache κ ν) : Prop where
  answered : ∀ key, (c.entries.lookup key).isSome = true ↔ key ∈ keys
  queries : c.queries = keys.eraseDups.length

omit [LawfulBEq κ] in
theorem asked_empty : Asked [] (Cache.empty : Cache κ ν) where
  answered := by simp [empty]
  queries := rfl

/-- An answer is there afterwards, and was asked for if it was not there before. -/
theorem Asked.fetch (h : c.Asked keys) {query : κ → Except CloudError ν} {key : κ} {v : ν}
    (hv : (c.fetch query key).1 = .ok v) : (c.fetch query key).2.Asked (keys ++ [key]) := by
  have hkey := h.answered key
  unfold Cache.fetch at hv ⊢
  cases hlookup : c.entries.lookup key with
  | some v' =>
    rw [hlookup] at hkey
    have hm : key ∈ keys := hkey.mp rfl
    constructor
    case answered =>
      intro key'
      rw [List.mem_append, List.mem_singleton, h.answered key']
      exact ⟨.inl, fun hm' => hm'.elim id fun he => he ▸ hm⟩
    case queries => rw [eraseDups_concat, if_pos hm, h.queries]
  | none =>
    rw [hlookup] at hkey
    have hm : key ∉ keys := fun hm => nomatch hkey.mpr hm
    simp only [hlookup] at hv ⊢
    cases hquery : query key with
    | error e =>
      rw [hquery] at hv
      exact nomatch hv
    | ok v' =>
      constructor
      case answered =>
        intro key'
        rw [List.lookup_cons, List.mem_append, List.mem_singleton, ← h.answered key']
        by_cases he : key' = key
        · simp [he]
        · have hne : (key' == key) = false := beq_eq_false_iff_ne.mpr he
          simp only [hne, he, or_false]
      case queries =>
        rw [eraseDups_concat, if_neg hm, List.length_append, h.queries]
        rfl

end Cache

/-! ## Checks -/

namespace Asking

variable {α β : Type} {keys keys' : List (String × Nat)}

/-- A check that, if it succeeds, asked for the listeners under some keys. -/
def Adds (keys : List (String × Nat)) (x : Asking α) : Prop :=
  ∀ (c c' : Caches) (a : α) (before : List (String × Nat)), x.run c = (.ok a, c') →
    c.listeners.Asked before → c'.listeners.Asked (before ++ keys)

theorem Adds.pure (a : α) : Adds [] (Pure.pure a : Asking α) := by
  intro c c' a' before hrun hc
  obtain rfl : c = c' := congrArg Prod.snd hrun
  rwa [List.append_nil]

theorem Adds.throw (keys : List (String × Nat)) (e : CheckError) :
    Adds keys (throw e : Asking α) := fun _ _ _ _ hrun => nomatch congrArg Prod.fst hrun

theorem Adds.bind {x : Asking α} {f : α → Asking β} (hx : Adds keys x)
    (hf : ∀ a, Adds keys' (f a)) : Adds (keys ++ keys') (x >>= f) := by
  intro c c' b before hrun hc
  rw [run_bind] at hrun
  cases hfirst : x.run c with
  | mk answer c₁ =>
    rw [hfirst] at hrun
    cases answer with
    | error e => exact nomatch congrArg Prod.fst hrun
    | ok a =>
      rw [← List.append_assoc]
      exact hf a c₁ c' b _ hrun (hx c c₁ a before hfirst hc)

/-- A check that goes on without further keys. -/
theorem Adds.bind_nil {x : Asking α} {f : α → Asking β} (hx : Adds keys x)
    (hf : ∀ a, Adds [] (f a)) : Adds keys (x >>= f) := by
  have h := hx.bind hf
  rwa [List.append_nil] at h

end Asking

namespace Lookups

open Asking

variable (cloud : Cloud)

theorem adds_listeners (balancer : String) (port : Nat) :
    Adds [(balancer, port)] ((cached cloud).listeners balancer port) := by
  intro c c' ls before hrun hc
  have hanswer : (c.listeners.fetch (fun key => cloud.listenersAt key.1 key.2)
    (balancer, port)).1 = .ok ls := congrArg Prod.fst hrun
  obtain rfl : _ = c' := congrArg Prod.snd hrun
  exact hc.fetch hanswer

theorem adds_rule (balancer listener domain url : String) :
    Adds [] ((cached cloud).rule balancer listener domain url) := by
  intro c c' rule before hrun hc
  obtain rfl : _ = c' := congrArg Prod.snd hrun
  rwa [List.append_nil]

theorem adds_targets (group : String) : Adds [] ((cached cloud).targets group) := by
  intro c c' targets before hrun hc
  obtain rfl : _ = c' := congrArg Prod.snd hrun
  rwa [List.append_nil]

theorem adds_inst (ip : String) : Adds [] ((cached cloud).inst ip) := by
  intro c c' found before hrun hc
  obtain rfl : _ = c' := congrArg Prod.snd hrun
  rwa [List.append_nil]

end Lookups

/-! ## Records -/

/-- The balancer and the port whose listeners a record asks for. -/
def ListenerRecord.listenerKey? (r : ListenerRecord) : Option (String × Nat) :=
  r.firstPort?.map fun port => (r.balancer, port)

/-- The balancer and the port whose listeners a record asks for. -/
def BackendRecord.listenerKey? (r : BackendRecord) : Option (String × Nat) :=
  r.firstPort?.map fun port => (r.balancer, port)

theorem ListenerRules.adds (cloud : Cloud) (r : ListenerRecord) :
    Asking.Adds r.listenerKey?.toList (listenerRules.check (Lookups.cached cloud) r) := by
  simp only [listenerRules, check, ListenerRecord.listenerKey?]
  cases r.firstPort? with
  | none => exact Asking.Adds.pure r
  | some port =>
    refine (Lookups.adds_listeners cloud r.balancer port).bind_nil fun existing => ?_
    split
    · exact Asking.Adds.pure _
    · exact Asking.Adds.throw _ _

theorem BackendRules.adds (cloud : Cloud) (r : BackendRecord) :
    Asking.Adds r.listenerKey?.toList (backendRules.check (Lookups.cached cloud) r) := by
  simp only [backendRules, check, BackendRecord.listenerKey?]
  cases r.firstPort? with
  | none => exact Asking.Adds.pure r
  | some port =>
    refine (Lookups.adds_listeners cloud r.balancer port).bind_nil fun listeners => ?_
    split
    · exact Asking.Adds.pure _
    · split
      · exact Asking.Adds.pure _
      · refine (Lookups.adds_rule cloud _ _ _ _).bind_nil fun rule => ?_
        split
        · exact Asking.Adds.pure _
        · split
          · exact Asking.Adds.pure _
          · refine (Lookups.adds_targets cloud _).bind_nil fun targets => ?_
            split
            · exact (Lookups.adds_inst cloud _).bind_nil fun found => Asking.Adds.pure _
            · exact Asking.Adds.pure _

/-! ## Batches -/

section

variable {R : Type} (key? : R → Option (String × Nat))

/-- The balancers and ports whose listeners the survivors of a batch ask for. -/
def listenerKeys (screened : List (Screened R)) : List (String × Nat) :=
  (screened.filter Screened.survives).filterMap fun s => key? s.record

theorem listenerKeys_cons (s : Screened R) (screened : List (Screened R)) :
    listenerKeys key? (s :: screened) =
      if s.survives then (key? s.record).toList ++ listenerKeys key? screened
      else listenerKeys key? screened := by
  unfold listenerKeys
  cases hs : s.survives with
  | false => simp [hs]
  | true => cases hkey : key? s.record <;> simp [hs, hkey]

variable {key?}

/-- **A batch asks for the listeners of its survivors.** -/
theorem adds_checkSurvivors {check : R → Asking R}
    (hcheck : ∀ r, Asking.Adds (key? r).toList (check r)) : ∀ screened : List (Screened R),
      Asking.Adds (listenerKeys key? screened) (checkSurvivors check screened)
  | [] => Asking.Adds.pure []
  | s :: screened => by
    have hrest : ∀ r : R, Asking.Adds (listenerKeys key? screened)
        (checkSurvivors check screened >>= fun rs => pure (r :: rs)) := fun r =>
      (adds_checkSurvivors hcheck screened).bind_nil fun rs => Asking.Adds.pure _
    rw [checkSurvivors, listenerKeys_cons]
    split
    · exact (hcheck s.record).bind hrest
    · exact hrest s.record

theorem queries_checkAll {rules : VendorRules R} {cloud : Cloud}
    (hcheck : ∀ r, Asking.Adds (key? r).toList (rules.check (Lookups.cached cloud) r))
    {screened : List (Screened R)} {checked : List R}
    (h : (rules.checkAll cloud screened).1 = .ok checked) :
    (rules.checkAll cloud screened).2 = (listenerKeys key? screened).eraseDups.length := by
  unfold VendorRules.checkAll at h ⊢
  cases hrun : (checkSurvivors (rules.check (Lookups.cached cloud)) screened).run Caches.empty with
  | mk answer caches =>
    rw [hrun] at h
    obtain rfl : answer = .ok checked := h
    have hasked := adds_checkSurvivors hcheck screened _ _ _ _ hrun Cache.asked_empty
    rw [List.nil_append] at hasked
    exact hasked.queries

end

/-- **A batch that is checked asks for listeners once for each pair of a balancer and a port** that
its survivors ask about. Listeners to be created fare as if they were asked about each time. -/
theorem checkAll_queries (ctx : Context) (cloud : Cloud) :
    (∀ rs screened, checkBalancers ctx cloud rs = .ok screened →
      (∀ checked, (listenerRules.checkAll cloud screened).1 = .ok checked →
        (listenerRules.checkAll cloud screened).2 =
          (listenerKeys ListenerRecord.listenerKey? screened).eraseDups.length) ∧
      (listenerRules.checkAll cloud screened).1 =
        checkSurvivors (listenerRules.check (Lookups.direct cloud)) screened) ∧
    ∀ rs screened, checkBalancers ctx cloud rs = .ok screened →
      ∀ checked, (backendRules.checkAll cloud screened).1 = .ok checked →
        (backendRules.checkAll cloud screened).2 =
          (listenerKeys BackendRecord.listenerKey? screened).eraseDups.length := by
  refine ⟨fun rs screened _ => ⟨fun checked h => ?_, ?_⟩, fun rs screened _ checked h => ?_⟩
  · exact queries_checkAll (ListenerRules.adds cloud) h
  · exact ListenerRules.transparent cloud screened
  · exact queries_checkAll (BackendRules.adds cloud) h

/-- Three records that survive the common check. -/
def servingBatch : List (Screened ListenerRecord) :=
  servingRecords.map fun r => { record := { r with lbId := some "lb-1" }, survives := true }

/-- Two of them ask for the listeners on one port. -/
theorem checkAll_queries_serving :
    checkBalancers servingContext servingCloud servingRecords = .ok servingBatch ∧
    (listenerKeys ListenerRecord.listenerKey? servingBatch).eraseDups.length = 2 ∧
    (listenerRules.checkAll servingCloud servingBatch).2 =
      (listenerKeys ListenerRecord.listenerKey? servingBatch).eraseDups.length := by
  have hcommon : checkBalancers servingContext servingCloud servingRecords = .ok servingBatch := by
    decide +kernel
  have hok : (listenerRules.checkAll servingCloud servingBatch).1.toBool = true := by decide +kernel
  refine ⟨hcommon, by decide +kernel, ?_⟩
  cases h : (listenerRules.checkAll servingCloud servingBatch).1 with
  | error e =>
    rw [h] at hok
    exact nomatch hok
  | ok checked =>
    exact ((checkAll_queries servingContext servingCloud).1 servingRecords servingBatch hcommon).1
      checked h

end BalancerImport
