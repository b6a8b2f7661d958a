import BalancerImport.Error
import BalancerImport.Flow.Worker

/-!
# Coordinating flows by locks

The requests that an import makes of a store of locks. A resource that somebody else holds is an
error here, which names the holder.

* `Lock.ensureFree`, `Lock.acquire`, `Lock.release`;
* `Lock.releaseWatched`: what happens to a lock when the flow that holds it ends.
-/

namespace BalancerImport.Lock

variable {K : Type} [LockStore K]

/-- Fails if a flow holds a resource. -/
def ensureFree (key : ResourceKey) (locks : K) : Except ImportError Unit :=
  match LockStore.lock? key locks with
  | .error e => .error (.store e)
  | .ok (some held) => .error (.busy key held.owner)
  | .ok none => .ok ()

/-- Makes a flow the holder of a resource, from a moment on. -/
def acquire (now : Instant) (key : ResourceKey) (owner : Uuid) (purpose : LockPurpose) (locks : K) :
    Except ImportError Unit × K :=
  match LockStore.tryAcquire { key, owner, purpose, createdAt := now } locks with
  | (.error e, locks) => (.error (.store e), locks)
  | (.ok (.busy holder), locks) => (.error (.busy key holder), locks)
  | (.ok .acquired, locks) => (.ok (), locks)

/-- Releases a resource if a flow holds it; whether it did. -/
def release (key : ResourceKey) (owner : Uuid) (locks : K) : Except ImportError Bool × K :=
  let (answer, locks) := LockStore.release key owner locks
  (answer.mapError ImportError.store, locks)

/-- Releases the resource of a watch if the watched flow holds it. If another flow does, or nobody,
there is nothing to do. -/
def releaseWatched (w : Watch) (locks : K) : Except String Unit × K :=
  match Stored.parse w.resourceKind with
  | .error e => (.error (StoreError.message e), locks)
  | .ok kind =>
    match LockStore.release { kind, id := w.resourceId } w.flow locks with
    | (.error e, locks) => (.error e.message, locks)
    | (.ok _, locks) => (.ok (), locks)

end BalancerImport.Lock
