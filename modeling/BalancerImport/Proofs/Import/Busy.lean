import BalancerImport.Proofs.Import.Execution

/-!
# Busy balancers

An execution is refused because a balancer is busy precisely if a record that it would execute is
about a balancer that was held before. The error names the first one in the order of the records,
and only the identifiers that were drawn for the ledger are used up.

* `LockList.lockOn?`: the lock on the balancer of a record;
* `Desk.ensureAllFree_wanted`: the check before a submission finds the first lock on a balancer;
* `Dispatch.submitAll_busy`: plans of distinct resources are not in each other's way;
* `Desk.submit_of_held`, `Desk.held_of_submit`: so only the check refuses a submission for this
  reason;
* **`Desk.execute_busy`**: when an execution answers that a balancer is busy, and what it leaves.
-/

namespace BalancerImport

/-! ## Locks on the balancers of records -/

section

variable {R : Type} [Importable R] {locks : LockList} {rs : List R} {r : R} {k : ResourceLock}

/-- The lock on the balancer of a record. -/
def LockList.lockOn? (locks : LockList) (r : R) : Option ResourceLock :=
  (Importable.lbId r).bind fun lbId => locks.lock? (.balancer lbId)

theorem LockList.lockOn?_eq_some : locks.lockOn? r = some k ↔
    ∃ lbId, Importable.lbId r = some lbId ∧ locks.lock? (.balancer lbId) = some k :=
  Option.bind_eq_some_iff

theorem LockList.isSome_lockOn? : (locks.lockOn? r).isSome ↔
    ∃ lbId, Importable.lbId r = some lbId ∧ ∃ k ∈ locks.entries, k.key = .balancer lbId := by
  simp only [LockList.lockOn?, LockList.lock?, Option.isSome_bind, Option.any_eq_true,
    List.find?_isSome, beq_iff_eq]

/-- The resources of records are searched in the order of the records. -/
theorem findSome?_wantedResources (locks : LockList) (rs : List R) :
    (wantedResources rs).findSome? (locks.lock? ·) = rs.findSome? locks.lockOn? := by
  rw [wantedResources, List.findSome?_map, findSome?_eraseDups, ← List.head?_filterMap,
    List.filterMap_filterMap, List.head?_filterMap]
  rfl

namespace Desk

theorem ensureAllFree_eq (locks : LockList) : ∀ keys : List ResourceKey,
    ensureAllFree locks keys =
      match keys.findSome? (locks.lock? ·) with
      | none => .ok ()
      | some k => .error (.busy k.key k.owner)
  | [] => rfl
  | key :: rest => by
    rw [ensureAllFree, Lock.ensureFree_eq, List.findSome?_cons]
    cases h : locks.lock? key with
    | none => exact ensureAllFree_eq locks rest
    | some k => simp only [(LockList.mem_of_lock? h).2]

/-- **The check before a submission fails with the first lock on the balancer of a record.** -/
theorem ensureAllFree_wanted (locks : LockList) (rs : List R) :
    ensureAllFree locks (wantedResources rs) =
      match rs.findSome? locks.lockOn? with
      | none => .ok ()
      | some k => .error (.busy k.key k.owner) := by
  rw [ensureAllFree_eq, findSome?_wantedResources]

end Desk

end

/-! ## Plans of distinct resources -/

namespace Dispatch

variable {now : Instant} {p : Plan} {key : ResourceKey} {owner : Uuid} {s : Submitted}
  {d d' : Dispatch LockList}

/-- A plan finds its resource busy only if there is a lock on it. -/
theorem prepare_busy (h : d.prepare now p = (.error (.busy key owner), d')) :
    ∃ k ∈ d.locks.entries, k.key = p.key := by
  unfold prepare at h
  split at h
  · exact nomatch congrArg Prod.fst h
  · split at h
    · exact nomatch congrArg Prod.fst h
    · split at h
      · rename_i hacquire
        obtain rfl := Except.error.inj (congrArg Prod.fst h)
        exact Lock.acquire_busy hacquire
      · exact nomatch congrArg Prod.fst h

/-- A plan that is prepared adds no lock but its own. -/
theorem prepare_locks (h : d.prepare now p = (.ok s, d')) :
    ∀ k ∈ d'.locks.entries, k ∈ d.locks.entries ∨ k.key = p.key := by
  unfold prepare at h
  split at h
  · exact nomatch congrArg Prod.fst h
  · split at h
    · exact nomatch congrArg Prod.fst h
    · split at h
      · exact nomatch congrArg Prod.fst h
      · rename_i locks hacquire
        obtain rfl := (congrArg Prod.snd h).symm
        obtain ⟨-, rfl⟩ := Lock.acquire_ok hacquire
        intro k hk
        rcases List.mem_append.mp hk with hk | hk
        · exact .inl hk
        · exact .inr (congrArg ResourceLock.key (List.mem_singleton.mp hk))

theorem prepareAll_busy : ∀ {plans : List Plan} {ss : List Submitted} {d d' : Dispatch LockList},
    (plans.map Plan.key).Nodup → d.prepareAll now ss plans = (.error (.busy key owner), d') →
    ∃ p ∈ plans, ∃ k ∈ d.locks.entries, k.key = p.key
  | [], _, _, _, _, h => nomatch congrArg Prod.fst h
  | p :: plans, ss, d, d', hnodup, h => by
    obtain ⟨hp, hrest⟩ := List.nodup_cons.mp hnodup
    unfold prepareAll at h
    split at h
    · rename_i hprepare
      obtain rfl := Except.error.inj (congrArg Prod.fst h)
      exact ⟨p, List.mem_cons_self, prepare_busy hprepare⟩
    · rename_i hprepare
      obtain ⟨q, hq, k, hk, he⟩ := prepareAll_busy hrest h
      rcases prepare_locks hprepare k hk with hk | hk
      · exact ⟨q, List.mem_cons_of_mem _ hq, k, hk, he⟩
      · -- the lock of the first plan is not on the resource of a later one
        exact absurd (List.mem_map.mpr ⟨q, hq, he.symm.trans hk⟩) hp

/-- **Plans of distinct resources find a resource busy only if it was before.** -/
theorem submitAll_busy {plans : List Plan} (hnodup : (plans.map Plan.key).Nodup)
    (h : d.submitAll now plans = (.error (.busy key owner), d')) :
    ∃ p ∈ plans, ∃ k ∈ d.locks.entries, k.key = p.key := by
  unfold submitAll at h
  split at h
  · rename_i hprepare
    obtain rfl := Except.error.inj (congrArg Prod.fst h)
    exact prepareAll_busy hnodup hprepare
  · split at h
    · rename_i submitted d₁ _ e d₂ hstart
      -- a flow that does not start is another error
      obtain rfl := Except.error.inj (congrArg Prod.fst h)
      unfold startAll at hstart
      split at hstart
      · exact nomatch congrArg Prod.fst hstart
      · split at hstart
        · exact nomatch congrArg Prod.fst hstart
        · exact nomatch congrArg Prod.fst hstart
    · exact nomatch congrArg Prod.fst h

end Dispatch

/-! ## Submitting -/

/-- A lock on the resource of a plan is one on the balancer of a record. -/
theorem Partitions.held {R : Type} [Importable R] {ids : List Uuid} {rs : List R}
    {plans : List Plan} (h : Partitions (ids.zip rs) plans) {p : Plan} (hp : p ∈ plans)
    {locks : LockList} {k : ResourceLock} (hk : k ∈ locks.entries) (he : k.key = p.key) :
    ∃ r ∈ rs, (locks.lockOn? r).isSome := by
  obtain ⟨item, hitem, hlb⟩ := h.exists_item hp
  exact ⟨item.2, (List.of_mem_zip hitem).2,
    LockList.isSome_lockOn?.mpr ⟨p.lbId, hlb, k, hk, he.trans (h.carries p hp).key⟩⟩

namespace Desk

section

variable {L R : Type} [Importable R] {offer : Capability R} {ctx : Context} {w : Written}
  {rs : List R} {d d' : Desk L LockList} {k : ResourceLock} {key : ResourceKey} {owner : Uuid}

/-- A submission that is refused by the check changes nothing. -/
theorem submit_of_held (h : rs.findSome? d.dispatch.locks.lockOn? = some k) :
    d.submit offer ctx w rs = (.error (.busy k.key k.owner), d) := by
  rw [submit, ensureAllFree_wanted, h]

/-- **A submission finds a balancer busy only in the check**, if the plans that come after it divide
the records. -/
theorem held_of_submit
    (hdivides : ∀ items plans, offer.compile ctx d.limits items = .ok plans →
      Partitions items plans)
    (h : d.submit offer ctx w rs = (.error (.busy key owner), d')) :
    ∃ k, rs.findSome? d.dispatch.locks.lockOn? = some k ∧ k.key = key ∧ k.owner = owner := by
  rw [submit, ensureAllFree_wanted] at h
  cases hk : rs.findSome? d.dispatch.locks.lockOn? with
  | some k =>
    rw [hk] at h
    obtain ⟨hkey, howner⟩ := ImportError.busy.inj (Except.error.inj (congrArg Prod.fst h))
    exact ⟨k, rfl, hkey, howner⟩
  | none =>
    rw [hk] at h
    dsimp only at h
    split at h
    · exact nomatch congrArg Prod.fst h
    · rename_i plans hplans
      have hplans := hdivides _ _ hplans
      have hanswer := (Prod.mk.inj h).1
      obtain ⟨p, hp, k, hk', he⟩ :=
        Dispatch.submitAll_busy hplans.nodup_keys (Prod.ext hanswer rfl)
      obtain ⟨r, hr, hheld⟩ := hplans.held hp hk' he
      rw [List.findSome?_eq_none_iff.mp hk r hr] at hheld
      exact nomatch hheld

/-- **A launch finds a balancer busy only in its submission**: taking back what was written and
noting flows fail with other errors. -/
theorem submit_of_launch_busy [LedgerStore L]
    (h : d.launch offer ctx w rs = (.error (.busy key owner), d')) :
    ∃ d₁, d.submit offer ctx w rs = (.error (.busy key owner), d₁) := by
  rcases launch_error h with ⟨cause, d₁, hsubmit, hcompensate⟩ | ⟨_, _, _, _, hattach, -⟩
  · unfold compensate at hcompensate
    split at hcompensate
    · obtain rfl := (Prod.mk.inj hcompensate).1
      exact ⟨d₁, hsubmit⟩
    · exact nomatch congrArg Prod.fst hcompensate
  · obtain ⟨cause, he⟩ := Written.attach_error hattach
    exact nomatch he

/-- A launch that is refused by the check takes back what was written. -/
theorem launch_of_held [LedgerStore L] {ledger : L}
    (h : rs.findSome? d.dispatch.locks.lockOn? = some k)
    (hrollback : w.rollback d.ledger = (.ok (), ledger)) :
    d.launch offer ctx w rs = (.error (.busy k.key k.owner), { d with ledger := ledger }) := by
  simp only [launch, submit_of_held h, compensate, hrollback]

end

/-! ## Executing -/

variable {o : Offer} {ctx : Context} {source : Source} {rs validated : List o.Record}
  {d : Desk MemoryLedger LockList} {k : ResourceLock} {key : ResourceKey} {owner : Uuid}

/-- Where the ledger keeps all items, what can be executed is written and launched. -/
theorem execute_eq_launch (source : Source) (hw : d.ledger.lostOnCreate = 0)
    (hv : (d.validate o.capability.rules ctx rs).1 = .ok validated)
    (hne : validated.filter Importable.isExecutable ≠ []) :
    let executable := validated.filter Importable.isExecutable
    let w := Written.drawn d.ledger executable
    ∃ lookups answer d', { d with
        ledger := Written.created ctx source executable d.ledger
        lookups := lookups }.launch o.capability ctx w executable = (answer, d') ∧
      d.execute o.capability ctx source rs =
        (answer.map (Report.of w · validated.length), d') := by
  obtain ⟨n, hn⟩ := validate_eq o.capability.rules ctx rs d
  have hvalid : d.validate o.capability.rules ctx rs = (.ok validated, { d with lookups := n }) :=
    Prod.ext hv hn
  intro executable w
  rcases hlaunch : { d with
      ledger := Written.created ctx source executable d.ledger
      lookups := n }.launch o.capability ctx w executable with ⟨answer, d'⟩
  refine ⟨n, answer, d', hlaunch, ?_⟩
  simp only [execute, hvalid, executeValidated, List.isEmpty_eq_false_iff.mpr hne,
    Written.write_kept hw, Bool.false_eq_true, ↓reduceIte]
  rw [hlaunch]

/-- An execution whose records are about balancers of which one is held takes back what it wrote. -/
theorem execute_of_held (hl : d.ledger.Fresh) (hw : d.ledger.lostOnCreate = 0)
    (hd : d.ledger.refusesDeletes = false)
    (hv : (d.validate o.capability.rules ctx rs).1 = .ok validated)
    (hne : validated.filter Importable.isExecutable ≠ [])
    (hk : (validated.filter Importable.isExecutable).findSome? d.dispatch.locks.lockOn? = some k) :
    ∃ lookups, d.execute o.capability ctx source rs =
      (.error (.busy k.key k.owner), { d with
        ledger := { d.ledger with
          jobsDrawn := d.ledger.jobsDrawn + 1
          itemsDrawn := d.ledger.itemsDrawn + (validated.filter Importable.isExecutable).length }
        lookups := lookups }) := by
  obtain ⟨n, answer, d', hlaunch, hexecute⟩ := execute_eq_launch source hw hv hne
  refine ⟨n, ?_⟩
  obtain ⟨rfl, rfl⟩ := Prod.mk.inj (hlaunch.symm.trans
    (launch_of_held hk (Written.rollback_created hl hd ctx source _)))
  exact hexecute

/-- An execution finds a balancer busy only if one was held before. -/
theorem held_of_execute (ho : o ∈ Offer.all) (hw : d.ledger.lostOnCreate = 0)
    (hv : (d.validate o.capability.rules ctx rs).1 = .ok validated)
    (hne : validated.filter Importable.isExecutable ≠ [])
    (h : (d.execute o.capability ctx source rs).1 = .error (.busy key owner)) :
    ∃ k, (validated.filter Importable.isExecutable).findSome? d.dispatch.locks.lockOn? = some k ∧
      k.key = key ∧ k.owner = owner := by
  obtain ⟨n, answer, d', hlaunch, hexecute⟩ := execute_eq_launch source hw hv hne
  rw [hexecute] at h
  rw [map_error h] at hlaunch
  obtain ⟨d₁, hsubmit⟩ := submit_of_launch_busy hlaunch
  obtain ⟨k, hk, hkey, howner⟩ :=
    held_of_submit (fun _ _ => Offer.compile_partitions ho) hsubmit
  exact ⟨k, hk, hkey, howner⟩

/-- **An execution is refused for a busy balancer precisely if it was held before.** Of the records
that can be executed, the error names the first one's balancer that is held and who holds it; the
engine and the locks are untouched, the entries of the ledger are as before, and only identifiers
for a job and for its items were drawn and queries made. -/
theorem execute_busy (ho : o ∈ Offer.all) (hl : d.ledger.Fresh) (hw : d.ledger.lostOnCreate = 0)
    (hd : d.ledger.refusesDeletes = false)
    (hv : (d.validate o.capability.rules ctx rs).1 = .ok validated)
    (hne : validated.filter Importable.isExecutable ≠ []) :
    let executable := validated.filter Importable.isExecutable
    let result := d.execute o.capability ctx source rs
    ((∃ key owner, result.1 = .error (.busy key owner)) ↔
      ∃ r ∈ executable, ∃ lbId, Importable.lbId r = some lbId ∧
        ∃ k ∈ d.dispatch.locks.entries, k.key = .balancer lbId) ∧
    ∀ key owner, result.1 = .error (.busy key owner) →
      (∃ before r after lbId k, executable = before ++ r :: after ∧
        Importable.lbId r = some lbId ∧ key = .balancer lbId ∧
        d.dispatch.locks.lock? key = some k ∧ k.owner = owner ∧
        ∀ r' ∈ before, ∀ id, Importable.lbId r' = some id →
          d.dispatch.locks.lock? (.balancer id) = none) ∧
      ∃ lookups, result.2 = { d with
        ledger := { d.ledger with
          jobsDrawn := d.ledger.jobsDrawn + 1
          itemsDrawn := d.ledger.itemsDrawn + executable.length }
        lookups := lookups } := by
  intro executable result
  have hheld : (∃ r ∈ executable, ∃ lbId, Importable.lbId r = some lbId ∧
      ∃ k ∈ d.dispatch.locks.entries, k.key = .balancer lbId) ↔
        ∃ k, executable.findSome? d.dispatch.locks.lockOn? = some k := by
    simp only [← LockList.isSome_lockOn?, ← Option.isSome_iff_exists, List.findSome?_isSome_iff]
  refine ⟨.trans ⟨?_, ?_⟩ hheld.symm, fun key owner h => ?_⟩
  · rintro ⟨key, owner, h⟩
    obtain ⟨k, hk, -⟩ := held_of_execute ho hw hv hne h
    exact ⟨k, hk⟩
  · rintro ⟨k, hk⟩
    obtain ⟨n, h⟩ := execute_of_held hl hw hd hv hne hk
    exact ⟨k.key, k.owner, congrArg Prod.fst h⟩
  · obtain ⟨k, hk, rfl, rfl⟩ := held_of_execute ho hw hv hne h
    obtain ⟨before, r, after, hsplit, hr, hbefore⟩ := List.findSome?_eq_some_iff.mp hk
    obtain ⟨lbId, hlb, hlock⟩ := LockList.lockOn?_eq_some.mp hr
    have hkey : k.key = .balancer lbId := (LockList.mem_of_lock? hlock).2
    refine ⟨⟨before, r, after, lbId, k, hsplit, hlb, hkey, hkey ▸ hlock, rfl,
      fun r' hr' id hid => ?_⟩, ?_⟩
    · have hfree := hbefore r' hr'
      rwa [LockList.lockOn?, hid, Option.bind_some] at hfree
    · obtain ⟨n, h⟩ := execute_of_held hl hw hd hv hne hk
      exact ⟨n, congrArg Prod.snd h⟩

/-- A desk where a flow works on the second balancer. -/
def sampleHeld : Desk MemoryLedger LockList :=
  { sample none false with
    dispatch := {
      engine := Engine.empty 0
      locks := { entries := [{ key := .balancer "lb-2", owner := ⟨7⟩, purpose := .createListener,
                               createdAt := 0 }] } } }

/-- The second of three records is about a balancer that is held. -/
theorem execute_busy_second : ∃ lookups,
    sampleHeld.execute listenerCapability sampleContext .excel sampleRecords =
      (.error (.busy (.balancer "lb-2") ⟨7⟩), { sampleHeld with
        ledger := { sampleHeld.ledger with jobsDrawn := 1, itemsDrawn := 3 }
        lookups := lookups }) := by
  have hbusy : (sampleHeld.execute listenerCapability sampleContext .excel sampleRecords).1 =
      .error (.busy (.balancer "lb-2") ⟨7⟩) := by decide +kernel
  have hcount : ((sampleHeld.validate listenerRules sampleContext sampleRecords).1.map
      fun rs => (rs.filter Importable.isExecutable).length) = .ok 3 := by decide +kernel
  obtain ⟨validated, hv, hlength⟩ := map_ok hcount
  obtain ⟨-, lookups, hdesk⟩ := (execute_busy (o := .listeners) (d := sampleHeld)
    List.mem_cons_self (fresh_sample none false).1 rfl rfl hv
    (List.ne_nil_of_length_eq_add_one hlength)).2 _ _ hbusy
  have hdrawn := congrArg (fun n => { sampleHeld.ledger with
    jobsDrawn := 1
    itemsDrawn := 0 + n }) hlength
  exact ⟨lookups, Prod.ext hbusy (hdesk.trans
    (congrArg (fun ledger => { sampleHeld with ledger := ledger, lookups := lookups }) hdrawn))⟩

end Desk

end BalancerImport
