import BalancerImport.Record.Backend
import BalancerImport.Record.Listener
import BalancerImport.Proofs.Text.Raised

/-!
# The parts of a record

A record consists of what it asks for, of its state, and of what validation resolves for it. The
steps of validation change one part each.

* `RecordState.rejectAll_append`, `RecordState.status_rejectAll`: a state that is ruled out at once or
  step by step;
* `Separable`: a kind of record whose parts are apart; both kinds are;
* `Separable.mapState_rejectAll_append`, `Separable.refreshed_eq`: what follows for the steps.
-/

namespace BalancerImport

/-! ## States -/

namespace RecordState

@[simp] theorem rejectAll_nil (s : RecordState) : rejectAll [] s = s := rfl

theorem rejectAll_append (reasons more : List String) (s : RecordState) :
    rejectAll (reasons ++ more) s = rejectAll more (rejectAll reasons s) :=
  List.foldl_append

theorem rejectAll_concat (reasons : List String) (reason : String) (s : RecordState) :
    rejectAll (reasons ++ [reason]) s = reject reason (rejectAll reasons s) :=
  rejectAll_append reasons [reason] s

/-- A state is ruled out by some reasons, and by none it stays as it is. -/
theorem status_rejectAll (reasons : List String) (s : RecordState) :
    (rejectAll reasons s).status = if reasons = [] then s.status else .notExecutable := by
  rcases List.eq_nil_or_concat reasons with rfl | ⟨reasons, reason, rfl⟩
  · rfl
  · rw [List.concat_eq_append, rejectAll_concat]
    simp [reject]

theorem messages_rejectAll (reasons : List String) (s : RecordState) :
    (rejectAll reasons s).messages = s.messages ++ reasons := by
  induction reasons using List.reverseRecOn with
  | nil => rw [rejectAll_nil, List.append_nil]
  | append_singleton reasons reason ih =>
    rw [rejectAll_concat, reject, ih, List.append_assoc]

theorem isRejected_rejectAll_initial (reasons : List String) :
    (rejectAll reasons initial).isRejected = !reasons.isEmpty := by
  rw [isRejected, status_rejectAll]
  cases reasons <;> rfl

end RecordState

/-! ## Records -/

/-- A kind of record whose state, and what validation resolves, are apart from what is asked for. -/
class Separable (R : Type) [Importable R] where
  /-- What a record asks for: the record as it was before anything was found out about it. -/
  bare : R → R
  state_withState (s : RecordState) (r : R) :
    Importable.state (Importable.withState s r) = s
  withState_withState (s t : RecordState) (r : R) :
    Importable.withState s (Importable.withState t r) = Importable.withState s r
  withState_state (r : R) : Importable.withState (Importable.state r) r = r
  canonical_withState (s : RecordState) (r : R) :
    Importable.canonical (Importable.withState s r) =
      Importable.withState s (Importable.canonical r)
  canonical_canonical (r : R) :
    Importable.canonical (Importable.canonical r) = Importable.canonical r
  balancer_withState (s : RecordState) (r : R) :
    Importable.balancer (Importable.withState s r) = Importable.balancer r
  balancer_canonical (r : R) : Importable.balancer (Importable.canonical r) = Importable.balancer r
  vip_withState (s : RecordState) (r : R) :
    Importable.vip (Importable.withState s r) = Importable.vip r
  vip_withLbId (id : String) (r : R) : Importable.vip (Importable.withLbId id r) = Importable.vip r
  vip_canonical (r : R) : Importable.vip (Importable.canonical r) = Importable.vip r
  dedupKey_withState (s : RecordState) (r : R) :
    Importable.dedupKey (Importable.withState s r) = Importable.dedupKey r
  violations_withState (s : RecordState) (r : R) :
    Importable.violations (Importable.withState s r) = Importable.violations r
  bare_withState (s : RecordState) (r : R) : bare (Importable.withState s r) = bare r
  bare_withLbId (id : String) (r : R) : bare (Importable.withLbId id r) = bare r
  bare_canonical (r : R) : bare (Importable.canonical r) = Importable.canonical (bare r)
  bare_bare (r : R) : bare (bare r) = bare r

theorem ListenerRecord.canonical_canonical (r : ListenerRecord) :
    canonical (canonical r) = canonical r := by
  unfold canonical
  rw [Named.raised_raised, Named.raised_raised]

theorem BackendRecord.canonical_canonical (r : BackendRecord) :
    canonical (canonical r) = canonical r := by
  unfold canonical
  rw [Named.raised_raised, Named.raised_raised]

instance : Separable ListenerRecord where
  bare r := { r with state := .initial, lbId := none }
  state_withState _ _ := rfl
  withState_withState _ _ _ := rfl
  withState_state _ := rfl
  canonical_withState _ _ := rfl
  canonical_canonical := ListenerRecord.canonical_canonical
  balancer_withState _ _ := rfl
  balancer_canonical _ := by
    simp only [Importable.balancer, Importable.canonical, ListenerRecord.canonical]
  vip_withState _ _ := rfl
  vip_withLbId _ _ := rfl
  vip_canonical _ := by simp only [Importable.vip, Importable.canonical, ListenerRecord.canonical]
  dedupKey_withState _ _ := rfl
  violations_withState _ _ := by
    simp only [Importable.violations, Importable.withState, ListenerRecord.violations,
      ListenerRecord.protocol?, ListenerRecord.certificateViolations]
  bare_withState _ _ := rfl
  bare_withLbId _ _ := rfl
  bare_canonical _ := rfl
  bare_bare _ := rfl

instance : Separable BackendRecord where
  bare r := { r with state := .initial, lbId := none, targetGroup := none, inst := none }
  state_withState _ _ := rfl
  withState_withState _ _ _ := rfl
  withState_state _ := rfl
  canonical_withState _ _ := rfl
  canonical_canonical := BackendRecord.canonical_canonical
  balancer_withState _ _ := rfl
  balancer_canonical _ := by
    simp only [Importable.balancer, Importable.canonical, BackendRecord.canonical]
  vip_withState _ _ := rfl
  vip_withLbId _ _ := rfl
  vip_canonical _ := by simp only [Importable.vip, Importable.canonical, BackendRecord.canonical]
  dedupKey_withState _ _ := rfl
  violations_withState _ _ := rfl
  bare_withState _ _ := rfl
  bare_withLbId _ _ := rfl
  bare_canonical _ := rfl
  bare_bare _ := rfl

namespace Separable

open Importable

variable {R : Type} [Importable R] [Separable R]

@[simp] theorem state_mapState (change : RecordState → RecordState) (r : R) :
    state (mapState change r) = change (state r) := state_withState _ r

@[simp] theorem balancer_mapState (change : RecordState → RecordState) (r : R) :
    balancer (mapState change r) = balancer r := balancer_withState _ r

@[simp] theorem dedupKey_mapState (change : RecordState → RecordState) (r : R) :
    dedupKey (mapState change r) = dedupKey r := dedupKey_withState _ r

@[simp] theorem bare_mapState (change : RecordState → RecordState) (r : R) :
    bare (mapState change r) = bare r := bare_withState _ r

theorem mapState_mapState (change next : RecordState → RecordState) (r : R) :
    mapState next (mapState change r) = mapState (fun s => next (change s)) r := by
  simp only [mapState, state_withState, withState_withState]

@[simp] theorem mapState_rejectAll_nil : mapState (RecordState.rejectAll []) = @id R :=
  funext withState_state

theorem mapState_rejectAll_append (reasons more : List String) (r : R) :
    mapState (RecordState.rejectAll (reasons ++ more)) r =
      mapState (RecordState.rejectAll more) (mapState (RecordState.rejectAll reasons) r) := by
  rw [mapState_mapState]
  exact congrArg (mapState · r) (funext (RecordState.rejectAll_append reasons more))

/-- A record as validation starts with it: in canonical form, and not yet validated. -/
theorem refreshed_eq (r : R) : refreshed r = withState .initial (canonical r) :=
  canonical_withState _ r

@[simp] theorem state_refreshed (r : R) : state (refreshed r) = .initial := by
  rw [refreshed_eq, state_withState]

@[simp] theorem balancer_refreshed (r : R) : balancer (refreshed r) = balancer r := by
  rw [refreshed_eq, balancer_withState, balancer_canonical]

@[simp] theorem vip_refreshed (r : R) : vip (refreshed r) = vip r := by
  rw [refreshed_eq, vip_withState, vip_canonical]

@[simp] theorem dedupKey_refreshed (r : R) : dedupKey (refreshed r) = dedupKey (canonical r) := by
  rw [refreshed_eq, dedupKey_withState]

@[simp] theorem violations_refreshed (r : R) :
    violations (refreshed r) = violations (canonical r) := by
  rw [refreshed_eq, violations_withState]

/-- It asks for the same, in canonical form. -/
theorem bare_refreshed (r : R) : bare (refreshed r) = canonical (bare r) := by
  rw [refreshed_eq, bare_withState, bare_canonical]

end Separable

end BalancerImport
