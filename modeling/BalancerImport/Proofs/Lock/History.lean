import BalancerImport.Proofs.Ledger.Rows
import BalancerImport.Proofs.Lock.Requests

/-!
# Histories of locks

Whatever was asked of a store of locks that started empty: it holds the locks that were acquired and
not released since, one on each resource at most. Locks in memory and locks in a table answer alike,
creation times and the order of listed locks aside.

* `LockRequest`, `LockAnswer`: what a store can be asked, and what it answers;
* `LockStore.history`, `LockStore.after`: requests with their answers, and the store they leave;
* `LockHistory.Unreleased`: locks that were acquired and not released since;
* `LockStore.Guards`: the answers that a history calls for;
* `LockList.Tells`: locks in memory that are the unreleased ones; `LockList.tells_after`;
* `LockTable.acquireWithin_succ`: one try is enough; `LockTable.serve_ofLocks`: a table
  answers as the locks in memory that it has rows of;
* **`LockStore.guarded`**: both stores, after any history.
-/

namespace BalancerImport

/-! ## Requests -/

/-- What a store of locks can be asked. -/
inductive LockRequest where
  | acquire (l : ResourceLock)
  | find (key : ResourceKey)
  | release (key : ResourceKey) (owner : Uuid)
  | list
  deriving DecidableEq

/-- What a store of locks answers. -/
inductive LockAnswer where
  | acquired (outcome : Acquired)
  | found (held : Option ResourceLock)
  | released (done : Bool)
  | listed (held : List ResourceLock)
  deriving DecidableEq

/-- A lock without the moment of its creation. -/
def ResourceLock.undated (l : ResourceLock) : ResourceLock := { l with createdAt := 0 }

/-- Answers that are the same, creation times and the order of listed locks aside. -/
def LockAnswer.Alike : LockAnswer → LockAnswer → Prop
  | found a, found b => a.map ResourceLock.undated = b.map ResourceLock.undated
  | listed as, listed bs => (as.map ResourceLock.undated).Perm (bs.map ResourceLock.undated)
  | a, b => a = b

theorem LockAnswer.alike_self (a : LockAnswer) : a.Alike a := by
  cases a with
  | acquired _ | released _ | found _ => rfl
  | listed held => exact List.Perm.refl _

namespace LockRequest

/-- The answer to a request, and the store that it leaves. -/
def serve {σ : Type} [LockStore σ] : LockRequest → σ → Except StoreError LockAnswer × σ
  | acquire l, s =>
    let (answer, s) := LockStore.tryAcquire l s
    (answer.map .acquired, s)
  | find key, s => ((LockStore.lock? key s).map .found, s)
  | release key owner, s =>
    let (answer, s) := LockStore.release key owner s
    (answer.map .released, s)
  | list, s => ((LockStore.locks s).map .listed, s)

/-- The resource that a request may take or free. -/
def touches : LockRequest → Option ResourceKey
  | acquire l => some l.key
  | release key _ => some key
  | find _ | list => none

/-- A request whose owner has a text that is read back. -/
def Fits : LockRequest → Prop
  | acquire l => l.owner.Fits
  | release _ owner => owner.Fits
  | find _ | list => True

theorem fits_find (key : ResourceKey) : (find key).Fits := trivial

theorem fits_list : list.Fits := trivial

end LockRequest

/-- Requests with their answers. -/
abbrev LockHistory : Type := List (LockRequest × Except StoreError LockAnswer)

namespace LockStore

variable {σ : Type} [LockStore σ]

/-- Requests with their answers, one after the other. -/
def history : List LockRequest → σ → LockHistory
  | [], _ => []
  | r :: rs, s => (r, (r.serve s).1) :: history rs (r.serve s).2

/-- A store after requests. -/
def after : List LockRequest → σ → σ
  | [], s => s
  | r :: rs, s => after rs (r.serve s).2

end LockStore

/-! ## Unreleased locks -/

namespace LockHistory

/-- What a history says of a lock that was taken. -/
abbrev took (l : ResourceLock) : LockRequest × Except StoreError LockAnswer :=
  (.acquire l, .ok (.acquired .acquired))

/-- What a history says of a resource that an owner let go. -/
abbrev letGo (key : ResourceKey) (owner : Uuid) : LockRequest × Except StoreError LockAnswer :=
  (.release key owner, .ok (.released true))

/-- A lock that was acquired, on a resource that nobody has released since. -/
def Unreleased (h : LockHistory) (l : ResourceLock) : Prop :=
  ∃ before after, h = before ++ took l :: after ∧ ∀ owner, letGo l.key owner ∉ after

variable {h : LockHistory} {l : ResourceLock} {entry : LockRequest × Except StoreError LockAnswer}

theorem not_unreleased_nil : ¬ Unreleased [] l := by
  rintro ⟨before, after, he, -⟩
  exact absurd he.symm (by simp)

/-- A lock is unreleased if it was just taken, or was unreleased and its resource was not just let
go. -/
theorem unreleased_concat : Unreleased (h ++ [entry]) l ↔
    entry = took l ∨ (Unreleased h l ∧ ∀ owner, entry ≠ letGo l.key owner) := by
  constructor
  · rintro ⟨before, after, he, hkept⟩
    rcases List.eq_nil_or_concat after with rfl | ⟨after, last, rfl⟩
    · exact .inl (List.append_singleton_inj.mp he).2
    · rw [List.concat_eq_append] at he hkept
      rw [← List.cons_append, ← List.append_assoc] at he
      obtain ⟨rfl, rfl⟩ := List.append_singleton_inj.mp he
      refine .inr ⟨⟨before, after, rfl, fun owner ho => ?_⟩, fun owner ho => ?_⟩
      · exact hkept owner (List.mem_append_left _ ho)
      · exact hkept owner (ho ▸ List.mem_append_right _ List.mem_cons_self)
  · rintro (rfl | ⟨⟨before, after, rfl, hkept⟩, hne⟩)
    · exact ⟨h, [], rfl, nofun⟩
    · refine ⟨before, after ++ [entry], by simp, fun owner ho => ?_⟩
      rcases List.mem_append.mp ho with ho | ho
      · exact hkept owner ho
      · exact hne owner (List.mem_singleton.mp ho).symm

end LockHistory

open LockHistory (Unreleased)

/-- The answers that a history calls for, and what they leave. -/
structure LockStore.Guards {σ : Type} [LockStore σ] (h : LockHistory) (s : σ) : Prop where
  /-- A lock is acquired where nobody holds the resource. -/
  acquire : ∀ l, (LockRequest.acquire l).Fits →
    (((LockRequest.acquire l).serve s).1 = .ok (.acquired .acquired) ↔
      ∀ k, Unreleased h k → k.key ≠ l.key)
  /-- Otherwise the holder is named, and nothing changes. -/
  busy : ∀ l k, (LockRequest.acquire l).Fits → Unreleased h k → k.key = l.key →
    (LockRequest.acquire l).serve s = (.ok (.acquired (.busy k.owner)), s)
  /-- A resource is released by its holder. -/
  release : ∀ key owner, (LockRequest.release key owner).Fits →
    (((LockRequest.release key owner).serve s).1 = .ok (.released true) ↔
      ∃ k, Unreleased h k ∧ k.key = key ∧ k.owner = owner)
  /-- Then it is free. -/
  released : ∀ key owner, (LockRequest.release key owner).Fits →
    ((LockRequest.release key owner).serve s).1 = .ok (.released true) →
      ((LockRequest.find key).serve ((LockRequest.release key owner).serve s).2).1 =
        .ok (.found none)
  /-- Otherwise nothing changes. -/
  kept : ∀ key owner, (LockRequest.release key owner).Fits →
    ((LockRequest.release key owner).serve s).1 ≠ .ok (.released true) →
      (LockRequest.release key owner).serve s = (.ok (.released false), s)
  /-- The lock on a resource is the unreleased one. -/
  found : ∀ k, Unreleased h k → ∃ l : ResourceLock, l.undated = k.undated ∧
    (LockRequest.find k.key).serve s = (.ok (.found (some l)), s)
  /-- There is none on a resource that nobody holds. -/
  free : ∀ key, (∀ k, Unreleased h k → k.key ≠ key) →
    (LockRequest.find key).serve s = (.ok (.found none), s)
  /-- A request leaves other resources alone. -/
  apart : ∀ (r : LockRequest) (key : ResourceKey), r.Fits → r.touches ≠ some key →
    ((LockRequest.find key).serve (r.serve s).2).1 = ((LockRequest.find key).serve s).1
  /-- The unreleased locks are listed, one on each resource. -/
  listed : ∃ ls : List ResourceLock, LockRequest.list.serve s = (.ok (.listed ls), s) ∧
    (ls.map ResourceLock.key).Nodup ∧
    ∀ u, u ∈ ls.map ResourceLock.undated ↔ ∃ k, Unreleased h k ∧ k.undated = u

/-! ## In memory -/

namespace LockList

variable {h : LockHistory} {s : LockList} {l : ResourceLock} {key : ResourceKey} {owner : Uuid}
  {r : LockRequest} {rs : List LockRequest}

/-- Locks in memory are the unreleased ones of a history, one on each resource. -/
structure Tells (h : LockHistory) (s : LockList) : Prop where
  keys : (s.entries.map ResourceLock.key).Nodup
  mem : ∀ l, l ∈ s.entries ↔ Unreleased h l

/-! ### One equation for each request -/

theorem serve_find : (LockRequest.find key).serve s = (.ok (.found (s.lock? key)), s) := rfl

theorem serve_list : LockRequest.list.serve s = (.ok (.listed s.entries), s) := rfl

theorem serve_release : (LockRequest.release key owner).serve s =
    (.ok (.released (s.entries.any (holds key owner))),
      { entries := s.entries.filter fun l => !holds key owner l }) := rfl

theorem serve_acquire_free (hfree : s.lock? l.key = none) : (LockRequest.acquire l).serve s =
    (.ok (.acquired .acquired), { entries := s.entries ++ [l] }) := by
  simp only [LockRequest.serve, LockStore.tryAcquire, tryAcquire, hfree]
  rfl

theorem serve_acquire_busy {k : ResourceLock} (hk : s.lock? l.key = some k) :
    (LockRequest.acquire l).serve s = (.ok (.acquired (.busy k.owner)), s) := by
  simp only [LockRequest.serve, LockStore.tryAcquire, tryAcquire, hk]
  rfl

theorem serve_release_false (hnone : s.entries.any (holds key owner) = false) :
    (LockRequest.release key owner).serve s = (.ok (.released false), s) := by
  have hall : s.entries.filter (fun l => !holds key owner l) = s.entries :=
    List.filter_eq_self.mpr fun l hl => by simp [List.any_eq_false.mp hnone l hl]
  rw [serve_release, hnone, hall]

/-! ### One request -/

namespace Tells

theorem nil : Tells [] LockList.empty where
  keys := List.nodup_nil
  mem _ := ⟨nofun, fun h => absurd h LockHistory.not_unreleased_nil⟩

theorem eq_of_key {k : ResourceLock} (ht : Tells h s) (hl : Unreleased h l) (hk : Unreleased h k)
    (he : k.key = l.key) : k = l :=
  List.inj_on_of_nodup_map ht.keys ((ht.mem k).mpr hk) ((ht.mem l).mpr hl) he

theorem lock?_eq_some (ht : Tells h s) (hl : Unreleased h l) : s.lock? l.key = some l :=
  LockList.lock?_eq_some ((ht.mem l).mpr hl) fun _ hk he => ht.eq_of_key hl ((ht.mem _).mp hk) he

theorem lock?_eq_none (ht : Tells h s) :
    s.lock? key = none ↔ ∀ k, Unreleased h k → k.key ≠ key := by
  rw [LockList.lock?_eq_none]
  exact forall_congr' fun k => by rw [ht.mem k]

/-- An answer that neither takes nor frees a resource leaves the unreleased locks. -/
theorem same {a : Except StoreError LockAnswer} (ht : Tells h s)
    (htook : ∀ l, (r, a) ≠ LockHistory.took l)
    (hletGo : ∀ key owner, (r, a) ≠ LockHistory.letGo key owner) : Tells (h ++ [(r, a)]) s where
  keys := ht.keys
  mem l := by
    rw [ht.mem, LockHistory.unreleased_concat]
    exact ⟨fun hl => .inr ⟨hl, hletGo l.key⟩, fun hl => hl.elim (absurd · (htook l)) And.left⟩

/-- **One more request and its answer are told by the locks that it leaves.** -/
theorem step (ht : Tells h s) (r : LockRequest) :
    Tells (h ++ [(r, (r.serve s).1)]) (r.serve s).2 := by
  cases r with
  | find key => exact ht.same nofun nofun
  | list => exact ht.same nofun nofun
  | acquire l =>
    cases hlock : s.lock? l.key with
    | some k =>
      rw [serve_acquire_busy hlock]
      exact ht.same (by simp) (by simp)
    | none =>
      rw [serve_acquire_free hlock]
      have hfree : ∀ k ∈ s.entries, k.key ≠ l.key := LockList.lock?_eq_none.mp hlock
      refine ⟨?_, fun k => ?_⟩
      · rw [List.map_append, List.map_cons, List.map_nil, List.nodup_append_comm]
        refine List.nodup_cons.mpr ⟨fun hl => ?_, ht.keys⟩
        obtain ⟨k, hk, he⟩ := List.mem_map.mp hl
        exact hfree k hk he
      · rw [LockHistory.unreleased_concat, List.mem_append, List.mem_singleton, ht.mem]
        simp [eq_comm, or_comm]
  | release key owner =>
    cases hany : s.entries.any (holds key owner) with
    | false =>
      rw [serve_release_false hany]
      exact ht.same (by simp) (by simp)
    | true =>
      rw [serve_release, hany]
      obtain ⟨k, hk, hholds⟩ := List.any_eq_true.mp hany
      obtain ⟨hkey, howner⟩ := holds_iff.mp hholds
      refine ⟨ht.keys.sublist (List.filter_sublist.map _), fun l => ?_⟩
      rw [LockHistory.unreleased_concat, List.mem_filter, ht.mem]
      -- the released resource has one lock, so that its key alone tells which locks stay
      have hstays : Unreleased h l → (holds key owner l = false ↔ l.key ≠ key) := fun hl => by
        rw [Bool.eq_false_iff, ne_eq, holds_iff, not_and]
        refine ⟨fun hne he => hne he ?_, fun hne he => absurd he hne⟩
        rw [← ht.eq_of_key ((ht.mem k).mp hk) hl (he.trans hkey.symm)] at howner
        exact howner
      constructor
      · rintro ⟨hl, hne⟩
        refine .inr ⟨hl, fun other ho => ?_⟩
        simp only [Prod.mk.injEq, LockRequest.release.injEq] at ho
        exact (hstays hl).mp (by simpa using hne) ho.1.1.symm
      · rintro (he | ⟨hl, hne⟩)
        · exact absurd he (by simp)
        · refine ⟨hl, ?_⟩
          rw [(hstays hl).mpr fun he => hne owner (by rw [he])]
          rfl

end Tells

theorem tells_after : ∀ {rs : List LockRequest} {h : LockHistory} {s : LockList}, Tells h s →
    Tells (h ++ LockStore.history rs s) (LockStore.after rs s)
  | [], h, s, ht => by
    show Tells (h ++ []) s
    rwa [List.append_nil]
  | r :: rs, h, s, ht => by
    have hrest : Tells (h ++ [(r, (r.serve s).1)] ++ LockStore.history rs (r.serve s).2)
        (LockStore.after rs (r.serve s).2) := tells_after (ht.step r)
    rw [List.append_assoc] at hrest
    exact hrest

/-! ### The answers -/

theorem lock?_release (ht : Tells h s) (hk : Unreleased h l) :
    ((LockRequest.release l.key l.owner).serve s).2.lock? l.key = none := by
  rw [serve_release, LockList.lock?_eq_none]
  intro k hmem he
  obtain ⟨hmem, hne⟩ := List.mem_filter.mp hmem
  have hkl : k = l := ht.eq_of_key hk ((ht.mem k).mp hmem) he
  exact absurd hne (by simp [holds, hkl])

/-- A request leaves the locks on resources that it does not touch. -/
theorem lock?_serve (h : r.touches ≠ some key) : (r.serve s).2.lock? key = s.lock? key := by
  cases r with
  | find _ | list => rfl
  | acquire l =>
    have hne : l.key ≠ key := fun he => h (congrArg some he)
    cases hlock : s.lock? l.key with
    | some k => rw [serve_acquire_busy hlock]
    | none =>
      rw [serve_acquire_free hlock, lock?, List.find?_append, List.find?_cons_of_neg (by simpa),
        List.find?_nil, Option.or_none]
      rfl
  | release freed owner =>
    have hne : freed ≠ key := fun he => h (congrArg some he)
    rw [serve_release, lock?, List.find?_filter, lock?]
    refine congrArg (s.entries.find? ·) (funext fun l => ?_)
    rw [Bool.eq_iff_iff, decide_eq_true_iff, Bool.not_eq_true', Bool.eq_false_iff, ne_eq, holds_iff,
      beq_iff_eq]
    exact ⟨And.right, fun hl => ⟨fun hheld => hne (hheld.1.symm.trans hl), hl⟩⟩

theorem mem_serve (hl : l ∈ (r.serve s).2.entries) : l ∈ s.entries ∨ r = .acquire l := by
  cases r with
  | find _ | list => exact .inl hl
  | release _ _ => exact .inl (List.mem_filter.mp hl).1
  | acquire k =>
    cases hlock : s.lock? k.key with
    | some held =>
      rw [serve_acquire_busy hlock] at hl
      exact .inl hl
    | none =>
      rw [serve_acquire_free hlock] at hl
      refine (List.mem_append.mp hl).imp_right fun hk => ?_
      rw [List.mem_singleton.mp hk]

theorem serve_ok (r : LockRequest) (s : LockList) : ∃ a, (r.serve s).1 = .ok a := by
  cases r with
  | find _ | list | release _ _ => exact ⟨_, rfl⟩
  | acquire l =>
    cases hlock : s.lock? l.key with
    | some k => exact ⟨_, congrArg Prod.fst (serve_acquire_busy hlock)⟩
    | none => exact ⟨_, congrArg Prod.fst (serve_acquire_free hlock)⟩

theorem history_ok : ∀ {rs : List LockRequest} {s : LockList},
    ∀ entry ∈ LockStore.history rs s, ∃ a, entry.2 = .ok a
  | [], _ => nofun
  | r :: _, s => List.forall_mem_cons.mpr ⟨serve_ok r s, history_ok⟩

/-- **Locks that are the unreleased ones give the answers that the history calls for.** -/
theorem Tells.guards (ht : Tells h s) : LockStore.Guards h s where
  acquire l _ := by
    rw [← ht.lock?_eq_none]
    cases hlock : s.lock? l.key with
    | none => simp [serve_acquire_free hlock]
    | some k => simp [serve_acquire_busy hlock]
  busy l k _ hk he := by
    have hlock := ht.lock?_eq_some hk
    rw [he] at hlock
    exact serve_acquire_busy hlock
  release key owner _ := by
    simp only [serve_release, Except.ok.injEq, LockAnswer.released.injEq, List.any_eq_true,
      holds_iff, ht.mem]
  released key owner _ hdone := by
    simp only [serve_release, Except.ok.injEq, LockAnswer.released.injEq, List.any_eq_true,
      holds_iff] at hdone
    obtain ⟨k, hk, rfl, rfl⟩ := hdone
    rw [serve_find, lock?_release ht ((ht.mem k).mp hk)]
  kept key owner _ hdone := by
    refine serve_release_false ?_
    simpa only [serve_release, ne_eq, Except.ok.injEq, LockAnswer.released.injEq,
      Bool.not_eq_true] using hdone
  found k hk := ⟨k, rfl, by rw [serve_find, ht.lock?_eq_some hk]⟩
  free key hfree := by rw [serve_find, ht.lock?_eq_none.mpr hfree]
  apart r key _ hne := by rw [serve_find, serve_find, lock?_serve hne]
  listed := ⟨s.entries, serve_list, ht.keys, fun u => by simp only [List.mem_map, ht.mem]⟩

end LockList

/-! ## In a table -/

theorem LockRow.read_ofLock {l : ResourceLock} (h : l.owner.Fits) : (ofLock l).read = .ok l := by
  simp only [LockRow.read, ofLock, Stored.Readable.parse_name, Stored.readId_text h, bind,
    Except.bind]
  rfl

theorem LockRow.isOn_ofLock (l : ResourceLock) (key : ResourceKey) :
    (ofLock l).isOn key = (l.key == key) := by
  obtain ⟨⟨kind, id⟩, _, _, _⟩ := l
  obtain ⟨kind', id'⟩ := key
  rw [Bool.eq_iff_iff]
  simp only [isOn, ofLock, Bool.and_eq_true, beq_iff_eq, ResourceKey.mk.injEq]
  exact and_congr_left fun _ => ⟨Stored.name_inj, congrArg Named.name⟩

theorem LockRow.readAll_ofLocks : ∀ {ls : List ResourceLock}, (∀ l ∈ ls, l.owner.Fits) →
    readAll (ls.map ofLock) = .ok ls
  | [], _ => rfl
  | l :: ls, h => by
    obtain ⟨hl, hls⟩ := List.forall_mem_cons.mp h
    rw [List.map_cons, readAll, read_ofLock hl, readAll_ofLocks hls]
    rfl

namespace LockTable

variable {t : LockTable} {s : LockList} {l : ResourceLock} {key : ResourceKey} {owner : Uuid}
  {r : LockRequest} {rs : List LockRequest} {h : LockHistory}

/-- A row is refused for its primary key where there is a row with that key. -/
theorem insert?_ofLock : t.insert? (.ofLock l) =
    if (t.rows.find? (LockRow.isOn l.key)).isSome then none
    else some { rows := t.rows ++ [.ofLock l] } := by
  rw [List.isSome_find?]
  rfl

/-- **A lock that is tried at all is taken, or its holder is looked up.** -/
theorem acquireWithin_succ (n : Nat) : acquireWithin (n + 1) l t =
    match t.rows.find? (LockRow.isOn l.key) with
    | some held => ((Stored.readId held.owner).map .busy, t)
    | none => (.ok .acquired, { rows := t.rows ++ [.ofLock l] }) := by
  rw [acquireWithin, insert?_ofLock]
  cases t.rows.find? (LockRow.isOn l.key) <;> rfl

/-- The table with the rows of locks. -/
def ofLocks (s : LockList) : LockTable := { rows := s.entries.map LockRow.ofLock }

theorem find?_ofLocks : (ofLocks s).rows.find? (LockRow.isOn key) =
    (s.lock? key).map LockRow.ofLock := by
  rw [ofLocks, List.find?_map, LockList.lock?]
  exact congrArg (fun p => (s.entries.find? p).map LockRow.ofLock)
    (funext fun l => LockRow.isOn_ofLock l key)

theorem holds_ofLock (hl : l.owner.Fits) (howner : owner.Fits) :
    holds key owner (.ofLock l) = LockList.holds key owner l := by
  rw [holds, LockList.holds, LockRow.isOn_ofLock]
  refine congrArg (l.key == key && ·) ?_
  rw [Bool.eq_iff_iff, beq_iff_eq, beq_iff_eq]
  exact Uuid.text_eq_iff hl howner

/-- **A table answers as the locks in memory that it has rows of, and has rows of those that they
leave.** -/
theorem serve_ofLocks (hs : ∀ l ∈ s.entries, l.owner.Fits) (hr : r.Fits) :
    r.serve (ofLocks s) = ((r.serve s).1, ofLocks (r.serve s).2) := by
  cases r with
  | list =>
    have hall : LockRow.readAll (ofLocks s).rows = .ok s.entries := LockRow.readAll_ofLocks hs
    simp only [LockRequest.serve, LockStore.locks, hall]
  | find key =>
    simp only [LockRequest.serve, LockStore.lock?, lock?, find?_ofLocks]
    cases hk : s.lock? key with
    | none => rfl
    | some k =>
      have hread := LockRow.read_ofLock (hs k (LockList.mem_of_lock? hk).1)
      simp only [Option.map_some, hread]
      rfl
  | acquire l =>
    simp only [LockRequest.serve, LockStore.tryAcquire, tryAcquire, acquireWithin_succ,
      find?_ofLocks, LockList.tryAcquire]
    cases hk : s.lock? l.key with
    | none => simp only [Option.map_none, ofLocks, List.map_append, List.map_cons, List.map_nil]
    | some k =>
      have howner := Stored.readId_text (hs k (LockList.mem_of_lock? hk).1)
      simp only [Option.map_some, LockRow.ofLock, howner]
      rfl
  | release key owner =>
    have hholds : ∀ l ∈ s.entries, holds key owner (.ofLock l) = LockList.holds key owner l :=
      fun l hl => holds_ofLock (hs l hl) hr
    have hany : (ofLocks s).rows.any (holds key owner) =
        s.entries.any (LockList.holds key owner) := by
      rw [ofLocks, List.any_map, Bool.eq_iff_iff, List.any_eq_true, List.any_eq_true]
      exact exists_congr fun l => and_congr_right fun hl => by rw [Function.comp, hholds l hl]
    have hkept : (ofLocks s).rows.filter (fun row => !holds key owner row) =
        (s.entries.filter fun l => !LockList.holds key owner l).map .ofLock := by
      rw [ofLocks, List.filter_map]
      exact congrArg (List.map _) (List.filter_congr fun l hl => congrArg (! ·) (hholds l hl))
    simp only [LockRequest.serve, LockStore.release, release, LockList.release, hany, hkept]
    rfl

theorem fits_serve (hs : ∀ l ∈ s.entries, l.owner.Fits) (hr : r.Fits) :
    ∀ l ∈ (r.serve s).2.entries, l.owner.Fits := fun l hl => by
  rcases LockList.mem_serve hl with hl | rfl
  · exact hs l hl
  · exact hr

/-- Over any requests, the table and the locks in memory give the same answers. -/
theorem history_ofLocks : ∀ {rs : List LockRequest} {s : LockList},
    (∀ l ∈ s.entries, l.owner.Fits) → (∀ r ∈ rs, r.Fits) →
      LockStore.history rs (ofLocks s) = LockStore.history rs s ∧
        LockStore.after rs (ofLocks s) = ofLocks (LockStore.after rs s) ∧
        ∀ l ∈ (LockStore.after rs s).entries, l.owner.Fits
  | [], _, hs, _ => ⟨rfl, rfl, hs⟩
  | r :: rs, s, hs, hrs => by
    obtain ⟨hr, hrs⟩ := List.forall_mem_cons.mp hrs
    obtain ⟨hhistory, hafter, hfits⟩ := history_ofLocks (fits_serve hs hr) hrs
    refine ⟨?_, ?_, hfits⟩
    · rw [LockStore.history, LockStore.history, serve_ofLocks hs hr, hhistory]
    · rw [LockStore.after, LockStore.after, serve_ofLocks hs hr, hafter]

/-- A table with rows of locks gives the answers that they give. -/
theorem guards_ofLocks (hs : ∀ l ∈ s.entries, l.owner.Fits) (hg : LockStore.Guards h s) :
    LockStore.Guards h (ofLocks s) where
  acquire l hl := by rw [serve_ofLocks hs hl, hg.acquire l hl]
  busy l k hl hk he := by rw [serve_ofLocks hs hl, hg.busy l k hl hk he]
  release key owner ho := by rw [serve_ofLocks hs ho, hg.release key owner ho]
  released key owner ho hdone := by
    rw [serve_ofLocks hs ho] at hdone ⊢
    rw [serve_ofLocks (fits_serve hs ho) (LockRequest.fits_find key)]
    exact hg.released key owner ho hdone
  kept key owner ho hdone := by
    rw [serve_ofLocks hs ho] at hdone ⊢
    rw [hg.kept key owner ho hdone]
  found k hk := by
    obtain ⟨l, hl, hfound⟩ := hg.found k hk
    exact ⟨l, hl, by rw [serve_ofLocks hs (LockRequest.fits_find _), hfound]⟩
  free key hfree := by rw [serve_ofLocks hs (LockRequest.fits_find key), hg.free key hfree]
  apart r key hr hne := by
    rw [serve_ofLocks hs hr, serve_ofLocks hs (LockRequest.fits_find key),
      serve_ofLocks (fits_serve hs hr) (LockRequest.fits_find key), hg.apart r key hr hne]
  listed := by
    obtain ⟨ls, hlisted, hkeys, hmem⟩ := hg.listed
    exact ⟨ls, by rw [serve_ofLocks hs LockRequest.fits_list, hlisted], hkeys, hmem⟩

end LockTable

/-! ## Both stores -/

/-- The same request, with answers that are alike. -/
def LockHistory.Alike (a b : LockRequest × Except StoreError LockAnswer) : Prop :=
  a.1 = b.1 ∧ ∃ x y, a.2 = .ok x ∧ b.2 = .ok y ∧ x.Alike y

/-- **Whatever they were asked, both stores give the same answers, creation times and the order of
listed locks aside.** A lock is acquired where no acquired one is unreleased, the holder is named
otherwise; only the holder releases it; and the unreleased lock is found and listed. -/
theorem LockStore.guarded {rs : List LockRequest} (hrs : ∀ r ∈ rs, r.Fits) :
    List.Forall₂ LockHistory.Alike (history rs LockList.empty) (history rs LockTable.empty) ∧
      Guards (history rs LockList.empty) (after rs LockList.empty) ∧
      Guards (history rs LockTable.empty) (after rs LockTable.empty) := by
  have hempty : LockTable.empty = LockTable.ofLocks LockList.empty := rfl
  have hnone : ∀ l ∈ LockList.empty.entries, l.owner.Fits := nofun
  obtain ⟨hhistory, hafter, hfits⟩ := LockTable.history_ofLocks hnone hrs
  have hguards : Guards (history rs LockList.empty) (after rs LockList.empty) :=
    (LockList.tells_after LockList.Tells.nil).guards
  refine ⟨?_, hguards, ?_⟩
  · rw [hempty, hhistory, List.forall₂_same]
    intro entry hentry
    obtain ⟨a, ha⟩ := LockList.history_ok entry hentry
    exact ⟨rfl, a, a, ha, ha, a.alike_self⟩
  · rw [hempty, hhistory, hafter]
    exact LockTable.guards_ofLocks hfits hguards

/-- Two flows ask for one balancer, and one of them for a target group with the same id. -/
def LockStore.sampleRequests : List LockRequest :=
  let lock (kind : ResourceKind) (n : Nat) (now : Instant) : ResourceLock :=
    { key := { kind, id := "7" }, owner := .drawn 0 .flow n, purpose := .addBackend,
      createdAt := now }
  let balancer : ResourceKey := .balancer "7"
  [.acquire (lock .loadBalancer 0 1), .acquire (lock .targetGroup 0 2),
    .acquire (lock .loadBalancer 1 3), .find balancer, .release balancer (.drawn 0 .flow 1),
    .release balancer (.drawn 0 .flow 0), .acquire (lock .loadBalancer 1 4), .list]

theorem LockStore.guarded_sample : (∀ r ∈ sampleRequests, r.Fits) ∧
    List.Forall₂ LockHistory.Alike (history sampleRequests LockList.empty)
      (history sampleRequests LockTable.empty) ∧
    Guards (history sampleRequests LockList.empty) (after sampleRequests LockList.empty) ∧
    Guards (history sampleRequests LockTable.empty) (after sampleRequests LockTable.empty) := by
  have hfits : ∀ r ∈ sampleRequests, r.Fits := by
    simp only [sampleRequests, List.forall_mem_cons, LockRequest.Fits]
    exact ⟨by decide, by decide, by decide, trivial, by decide, by decide, by decide, trivial,
      nofun⟩
  exact ⟨hfits, guarded hfits⟩

end BalancerImport
