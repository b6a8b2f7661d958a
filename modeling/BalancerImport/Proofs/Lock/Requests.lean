import BalancerImport.Lock.Coordinator
import Mathlib.Data.List.Nodup

/-!
# Requests to the locks in memory

What asking for locks, acquiring and releasing do to the list of locks.

* `LockList.lock?_eq_none`, `LockList.lock?_eq_some`: the lock on a key;
* `Lock.ensureFree_eq`, `Lock.acquire_ok`, `Lock.acquire_error`, `Lock.acquire_busy`,
  `Lock.release_snd`, `Lock.releaseWatched_balancer`: what each request does.
-/

namespace BalancerImport

namespace LockList

variable {s : LockList} {key : ResourceKey} {l : ResourceLock}

theorem lock?_eq_none : s.lock? key = none ↔ ∀ l ∈ s.entries, l.key ≠ key := by
  simp [lock?, List.find?_eq_none]

theorem mem_of_lock? (h : s.lock? key = some l) : l ∈ s.entries ∧ l.key = key :=
  ⟨List.mem_of_find?_eq_some h, by simpa using List.find?_some h⟩

/-- A lock is found by its key where no other lock has it. -/
theorem lock?_eq_some (hl : l ∈ s.entries) (hu : ∀ k ∈ s.entries, k.key = l.key → k = l) :
    s.lock? l.key = some l := by
  cases h : s.lock? l.key with
  | none => exact absurd rfl (lock?_eq_none.mp h l hl)
  | some k =>
    obtain ⟨hk, he⟩ := mem_of_lock? h
    rw [hu k hk he]

theorem holds_iff {owner : Uuid} : holds key owner l = true ↔ l.key = key ∧ l.owner = owner := by
  simp [holds]

end LockList

namespace Lock

variable {now : Instant} {key : ResourceKey} {owner : Uuid} {purpose : LockPurpose}
  {locks locks' : LockList}

theorem ensureFree_eq (key : ResourceKey) (locks : LockList) :
    ensureFree key locks =
      match locks.lock? key with
      | none => .ok ()
      | some held => .error (.busy key held.owner) := by
  simp only [ensureFree, LockStore.lock?]
  cases locks.lock? key <;> rfl

theorem acquire_ok (h : acquire now key owner purpose locks = (.ok (), locks')) :
    (∀ l ∈ locks.entries, l.key ≠ key) ∧
      locks' = { entries := locks.entries ++ [{ key, owner, purpose, createdAt := now }] } := by
  simp only [acquire, LockStore.tryAcquire, LockList.tryAcquire] at h
  split at h
  · simp_all
  · simp_all
  · rename_i hanswer
    split at hanswer
    · simp at hanswer
    · rename_i hnone
      simp only [Prod.mk.injEq, true_and] at hanswer h
      exact ⟨LockList.lock?_eq_none.mp hnone, h.symm.trans hanswer.symm⟩

theorem acquire_error {e : ImportError}
    (h : acquire now key owner purpose locks = (.error e, locks')) : locks' = locks := by
  simp only [acquire, LockStore.tryAcquire, LockList.tryAcquire] at h
  split at h
  · simp_all
  · rename_i hanswer
    split at hanswer
    · simp only [Prod.mk.injEq] at hanswer h
      exact h.2.symm.trans hanswer.2.symm
    · simp at hanswer
  · simp at h

/-- A resource is found busy only if there is a lock on it. -/
theorem acquire_busy {key' : ResourceKey} {owner' : Uuid}
    (h : acquire now key owner purpose locks = (.error (.busy key' owner'), locks')) :
    ∃ l ∈ locks.entries, l.key = key := by
  cases hlock : locks.lock? key with
  | some l => exact ⟨l, LockList.mem_of_lock? hlock⟩
  | none => simp [acquire, LockStore.tryAcquire, LockList.tryAcquire, hlock] at h

theorem release_snd : (release key owner locks).2 =
    { entries := locks.entries.filter fun l => !LockList.holds key owner l } := rfl

/-- The word of a balancer is read back as its kind. -/
theorem parse_balancer :
    Stored.parse (Named.name ResourceKind.loadBalancer) = .ok ResourceKind.loadBalancer := by
  decide +kernel

/-- **Announcing the end of a flow that works on a balancer releases the lock that it holds.** -/
theorem releaseWatched_balancer {w : Watch}
    (h : w.resourceKind = Named.name ResourceKind.loadBalancer) :
    releaseWatched w locks = (.ok (), (release (.balancer w.resourceId) w.flow locks).2) := by
  unfold releaseWatched
  rw [h, parse_balancer]
  rfl

end Lock

end BalancerImport
