import BalancerImport.Proofs.Check.Batch
import BalancerImport.Proofs.Check.Comparison

/-!
# The verdicts on listener records

What a validation says about listeners to be created: when it fails, and what it makes of each
record when it does not.

* `Cloud.listenersOf`: the listeners on the balancer and the first port of a record;
* `ListenerRecord.Creatable`, `ListenerRecord.Existent`: what the cloud has to be like for a record
  to be executed, and for it to be superfluous;
* `ListenerRecord.Incomparable`: why a validation fails, if it found all balancers;
* `ListenerVerdicts`: all verdicts on a batch;
* **`validateRecords_listeners`**: those are the verdicts of a validation, as on
  `servingRecords` (`validateRecords_listeners_serving`).
-/

namespace BalancerImport

open Importable Separable

/-- The listeners on the balancer and the first port of a record. -/
def Cloud.listenersOf (cloud : Cloud) (r : ListenerRecord) : List Listener :=
  cloud.snapshot.listeners.filter fun l => l.balancer == r.balancer && some l.port == r.firstPort?

namespace ListenerRecord

/-- A candidate that its balancer admits, on whose port nothing but UDP listens. -/
structure Creatable (ctx : Context) (cloud : Cloud) (rs : List ListenerRecord) (i : Nat)
    (r : ListenerRecord) : Prop where
  candidate : Candidate rs i r
  admitted : ∃ lb, Admits ctx cloud lb r
  free : ∀ l ∈ cloud.listenersOf r, l.protocol = .udp

/-- A candidate that its balancer admits, on whose port there are listeners other than UDP, each of
which is the one that is asked for. -/
structure Existent (ctx : Context) (cloud : Cloud) (rs : List ListenerRecord) (i : Nat)
    (r : ListenerRecord) : Prop where
  candidate : Candidate rs i r
  admitted : ∃ lb, Admits ctx cloud lb r
  taken : ∃ l ∈ cloud.listenersOf r, l.protocol ≠ .udp
  fits : ∀ l ∈ cloud.listenersOf r, l.protocol ≠ .udp → ListenerRules.Fits r.canonical l

/-- An HTTPS candidate on whose balancer, in an allowed region, and first port there is an HTTPS
listener without certificate. -/
def Incomparable (ctx : Context) (cloud : Cloud) (rs : List ListenerRecord) : Prop :=
  ∃ i r lb l, Candidate rs i r ∧ cloud.balancerIn? ctx.scope r.balancer = some lb ∧
    lb.region ∈ ctx.regions ∧ r.canonical.protocol = "HTTPS" ∧ l ∈ cloud.listenersOf r ∧
    l.protocol = .https ∧ l.certificate = none

end ListenerRecord

/-! ## The rules of the vendor -/

namespace ListenerRules

variable {cloud : Cloud}

/-- The rules compare a record with all listeners on its port. -/
theorem check_direct (hcloud : cloud.outage = none) (r : ListenerRecord) :
    check (Lookups.direct cloud) r = compareAll r (cloud.listenersOf r) := by
  unfold check Cloud.listenersOf
  cases hport : r.firstPort? with
  | none => simp [compareAll, pure, Except.pure]
  | some port =>
    simp only [Lookups.direct_listeners hcloud, Option.some_beq_some, bind, Except.bind]
    cases compareAll r (cloud.snapshot.listeners.filter fun l =>
      l.balancer == r.balancer && l.port == port) <;> rfl

theorem pinning (hcloud : cloud.outage = none) : listenerRules.Pinning cloud := by
  intro r r' hr hcheck
  obtain ⟨-, s, rfl, hs⟩ := compareAll_ok ((check_direct hcloud r).symm.trans hcheck)
  exact hs.pinned hr

/-- A record as the rules get it. -/
theorem mapState_withLbId_refreshed (reasons : List String) (id : String) (r : ListenerRecord) :
    mapState (RecordState.rejectAll reasons) (withLbId id (refreshed r)) =
      { r.canonical with state := RecordState.initial.rejectAll reasons, lbId := some id } := by
  simp only [mapState, refreshed_eq, Importable.withState, Importable.withLbId, Importable.state,
    Importable.canonical]

theorem listenersOf_noted (r : ListenerRecord) (s : RecordState) (id : Option String) :
    cloud.listenersOf { r.canonical with state := s, lbId := id } = cloud.listenersOf r := by
  simp only [Cloud.listenersOf, ListenerRecord.firstPort?, ListenerRecord.canonical]

theorem uncertified_canonical {r : ListenerRecord} {l : Listener} :
    Uncertified r.canonical l ↔
      l.protocol = .https ∧ r.canonical.protocol = "HTTPS" ∧ l.certificate = none := by
  have hprotocol := ListenerRecord.protocol?_canonical r .https
  exact ⟨fun h => ⟨h.protocol, hprotocol.mp h.record, h.certificate⟩,
    fun h => ⟨h.1, hprotocol.mpr h.2.1, h.2.2⟩⟩

variable {id : String} {r checked : ListenerRecord}

/-- The rules, as far as they do not fail, settle the state of a record. -/
theorem settled_of_check (reasons : List String) (hcloud : cloud.outage = none)
    (h : check (Lookups.direct cloud)
      (mapState (RecordState.rejectAll reasons) (withLbId id (refreshed r))) = .ok checked) :
    (∀ l ∈ cloud.listenersOf r, ¬ Uncertified r.canonical l) ∧
      Settled { r.canonical with state := RecordState.initial.rejectAll reasons, lbId := some id }
        (cloud.listenersOf r) checked.state := by
  rw [check_direct hcloud, mapState_withLbId_refreshed, listenersOf_noted] at h
  obtain ⟨hcertified, s, rfl, hs⟩ := compareAll_ok h
  exact ⟨fun l hl hu => hcertified l hl (uncertified_noted.mpr hu), hs⟩

/-- They fail only for a listener without certificate. -/
theorem uncertified_of_check {reasons : List String} {e : CheckError} (hcloud : cloud.outage = none)
    (h : check (Lookups.direct cloud)
      (mapState (RecordState.rejectAll reasons) (withLbId id (refreshed r))) = .error e) :
    ∃ l ∈ cloud.listenersOf r, Uncertified r.canonical l ∧ e = .missingCertificate l.cloudId := by
  rw [check_direct hcloud, mapState_withLbId_refreshed, listenersOf_noted] at h
  obtain ⟨l, hl, hu, he⟩ := compareAll_error h
  exact ⟨l, hl, uncertified_noted.mp hu, he⟩

/-- The status in which a record against which nothing spoke ends up. -/
theorem Settled.finish_cases {ls : List Listener} {s : RecordState}
    (h : Settled { r with state := .initial, lbId := some id } ls s) :
    (∀ l ∈ ls, l.protocol = .udp) ∧ s.finish.status = .executable ∨
    ((∃ l ∈ ls, l.protocol ≠ .udp) ∧ (∀ l ∈ ls, l.protocol ≠ .udp → Fits r l)) ∧
      s.finish.status = .existing ∨
    (∃ l ∈ ls, l.protocol ≠ .udp ∧ ¬ Fits r l) ∧ s.finish.status = .notExecutable := by
  by_cases hudp : ∀ l ∈ ls, l.protocol = .udp
  · exact .inl ⟨hudp, by rw [h.free hudp]; rfl⟩
  · have htaken : ∃ l ∈ ls, l.protocol ≠ .udp := by simpa using hudp
    by_cases hfits : ∀ l ∈ ls, l.protocol ≠ .udp → Fits r l
    · refine .inr (.inl ⟨⟨htaken, hfits⟩, ?_⟩)
      have hs : s.status = .existing :=
        h.existing htaken fun l hl hne => fits_noted.mpr (hfits l hl hne)
      simp [RecordState.finish, hs]
    · obtain ⟨l, hl, hne, hnot⟩ : ∃ l ∈ ls, l.protocol ≠ .udp ∧ ¬ Fits r l := by
        simpa using hfits
      refine .inr (.inr ⟨⟨l, hl, hne, hnot⟩, finish_pinned (h.rejected ?_)⟩)
      exact ⟨l, hl, hne, mt fits_noted.mp hnot⟩

end ListenerRules

/-! ## The verdicts -/

/-- The verdicts on a batch of listeners. It fails where a balancer is not found, and otherwise where
a certificate is missing, and for no other reason; if it does not fail, each record is executable,
existing, or neither. -/
structure ListenerVerdicts (ctx : Context) (cloud : Cloud) (rs : List ListenerRecord)
    (answer : Except CheckError (List ListenerRecord)) : Prop where
  unknown : (∃ cloudId, answer = .error (.unknownBalancer cloudId)) ↔
    Unfound ctx cloud rs
  uncertified : (∃ listener, answer = .error (.missingCertificate listener)) ↔
    ¬ Unfound ctx cloud rs ∧ ListenerRecord.Incomparable ctx cloud rs
  answered : ∀ cause, answer ≠ .error (.query cause)
  verdicts : ∀ {validated}, answer = .ok validated →
    Verdicts (ListenerRecord.Creatable ctx cloud rs) (ListenerRecord.Existent ctx cloud rs) rs
      validated

variable {ctx : Context} {cloud : Cloud} {rs validated : List ListenerRecord}

/-- A record gets exactly one verdict. -/
theorem listener_verdict (hcloud : cloud.outage = none)
    (h : (validateRecords listenerRules ctx cloud rs).1 = .ok validated) {i : Nat}
    {r v : ListenerRecord} (hr : rs[i]? = some r) (hv : validated[i]? = some v) :
    Verdict (ListenerRecord.Creatable ctx cloud rs i r) (ListenerRecord.Existent ctx cloud rs i r)
      v.state.status := by
  have hjudged :=
    judged_of_validateRecords hcloud (ListenerRules.transparent cloud) h hr hv
  rcases hjudged.settled (ListenerRules.pinning hcloud) with
    ⟨hstatus, hnot⟩ | ⟨hcandidate, lb, hadmits, checked, hchecked, rfl⟩
  · rw [show v.state.status = .notExecutable from hstatus]
    exact .notExecutable (fun hc => hnot ⟨hc.candidate, hc.admitted⟩)
      fun he => hnot ⟨he.candidate, he.admitted⟩
  · rw [← id_eq (withLbId lb.id (refreshed r)), ← mapState_rejectAll_nil] at hchecked
    obtain ⟨-, hsettled⟩ := ListenerRules.settled_of_check [] hcloud hchecked
    have hstate : (mapState RecordState.finish checked).state = checked.state.finish := rfl
    rw [hstate]
    rcases hsettled.finish_cases with ⟨hudp, hs⟩ | ⟨⟨htaken, hfits⟩, hs⟩ | ⟨⟨l, hl, hne, hnot⟩, hs⟩
    · rw [hs]
      refine .executable ⟨hcandidate, ⟨lb, hadmits⟩, hudp⟩ fun he => ?_
      obtain ⟨l, hl, hne⟩ := he.taken
      exact hne (hudp l hl)
    · rw [hs]
      refine .existing (fun hc => ?_) ⟨hcandidate, ⟨lb, hadmits⟩, htaken, hfits⟩
      obtain ⟨l, hl, hne⟩ := htaken
      exact hne (hc.free l hl)
    · rw [hs]
      exact .notExecutable (fun hc => hne (hc.free l hl)) fun he => hnot (he.fits l hl hne)

/-- Why a validation fails. -/
theorem listener_error (hcloud : cloud.outage = none) {e : CheckError}
    (h : (validateRecords listenerRules ctx cloud rs).1 = .error e) :
    (Unfound ctx cloud rs ∧ ∃ cloudId, e = .unknownBalancer cloudId) ∨
    (¬ Unfound ctx cloud rs ∧ ListenerRecord.Incomparable ctx cloud rs ∧
      ∃ listener, e = .missingCertificate listener) := by
  rcases validateRecords_error hcloud (ListenerRules.transparent cloud) h with
    hunfound | ⟨hfound, i, r, lb, reasons, hcandidate, hlb, hregion, hfails⟩
  · exact .inl hunfound
  · obtain ⟨l, hl, hu, he⟩ := ListenerRules.uncertified_of_check hcloud hfails
    obtain ⟨hprotocol, hrecord, hnone⟩ := ListenerRules.uncertified_canonical.mp hu
    exact .inr ⟨hfound, ⟨i, r, lb, l, hcandidate, hlb, hregion, hrecord, hl, hprotocol, hnone⟩, _, he⟩

/-- A validation that succeeds found all balancers and certificates that it had to look at. -/
theorem listener_ok (hcloud : cloud.outage = none)
    (h : (validateRecords listenerRules ctx cloud rs).1 = .ok validated) :
    ¬ Unfound ctx cloud rs ∧ ¬ ListenerRecord.Incomparable ctx cloud rs := by
  refine ⟨found_of_validateRecords hcloud (ListenerRules.transparent cloud) h, ?_⟩
  rintro ⟨i, r, lb, l, hcandidate, hlb, hregion, hrecord, hl, hprotocol, hnone⟩
  have hu := ListenerRules.uncertified_canonical.mpr ⟨hprotocol, hrecord, hnone⟩
  obtain ⟨v, hv⟩ := hcandidate.judged hcloud (ListenerRules.transparent cloud) h
  cases hv with
  | ruledOut hnot => exact hnot hcandidate
  | barred _ lb' hlb' hbarred =>
    obtain rfl := Option.some.inj (hlb.symm.trans hlb')
    simp [Context.allows, hregion] at hbarred
  | misnamed _ lb' _ _ _ reason checked hchecked =>
    exact (ListenerRules.settled_of_check [reason] hcloud hchecked).1 l hl hu
  | checked _ lb' _ _ _ checked hchecked =>
    rw [← id_eq (withLbId lb'.id (refreshed r)), ← mapState_rejectAll_nil] at hchecked
    exact (ListenerRules.settled_of_check [] hcloud hchecked).1 l hl hu

/-- **The verdicts of a validation of listeners**, while the cloud can be reached. -/
theorem validateRecords_listeners (ctx : Context) (cloud : Cloud) (hcloud : cloud.outage = none)
    (rs : List ListenerRecord) :
    ListenerVerdicts ctx cloud rs (validateRecords listenerRules ctx cloud rs).1 := by
  constructor
  · refine ⟨fun ⟨cloudId, h⟩ => ?_, fun hunfound => ?_⟩
    · rcases listener_error hcloud h with ⟨hunfound, -⟩ | ⟨-, -, listener, he⟩
      · exact hunfound
      · exact nomatch he
    · cases h : (validateRecords listenerRules ctx cloud rs).1 with
      | ok validated => exact absurd hunfound (listener_ok hcloud h).1
      | error e =>
        rcases listener_error hcloud h with ⟨-, cloudId, rfl⟩ | ⟨hfound, -⟩
        · exact ⟨cloudId, rfl⟩
        · exact absurd hunfound hfound
  · refine ⟨fun ⟨listener, h⟩ => ?_, fun ⟨hfound, hincomparable⟩ => ?_⟩
    · rcases listener_error hcloud h with ⟨-, cloudId, he⟩ | ⟨hfound, hincomparable, -⟩
      · exact nomatch he
      · exact ⟨hfound, hincomparable⟩
    · cases h : (validateRecords listenerRules ctx cloud rs).1 with
      | ok validated => exact absurd hincomparable (listener_ok hcloud h).2
      | error e =>
        rcases listener_error hcloud h with ⟨hunfound, -⟩ | ⟨-, -, listener, rfl⟩
        · exact absurd hunfound hfound
        · exact ⟨listener, rfl⟩
  · intro cause h
    rcases listener_error hcloud h with ⟨-, cloudId, he⟩ | ⟨-, -, listener, he⟩
    · exact nomatch he
    · exact nomatch he
  · exact fun h => .of_forall (length_validateRecords h) (listener_verdict hcloud h)

/-- A cloud with a balancer in the region `r`, and with an HTTPS listener on its port 443. -/
def servingCloud : Cloud := .ofSnapshot { Snapshot.empty with
  balancers := [{ id := "lb-1", cloudId := "clb-1", vendor := .tcloud, account := "a", business := 1,
                  region := "r", domain := "", privateV4 := ["10.0.0.1"], privateV6 := [],
                  publicV4 := [], publicV6 := [] }]
  listeners := [{ id := "l-1", cloudId := "lbl-1", balancer := "clb-1", protocol := .https,
                  port := 443, endPort := none, sni := false,
                  certificate := some { sslMode := some "unidirectional", ca := none,
                                        certificates := ["c-1", "c-2"] } }] }

/-- The operator of the cloud. -/
def servingContext : Context :=
  { vendor := .tcloud, business := 1, account := "a", regions := ["r"] }

/-- A listener on a free port, the listener that is there, and another one in its place. -/
def servingRecords : List ListenerRecord :=
  [{ ListenerRecord.blank with vip := "10.0.0.1", balancer := "clb-1", protocol := "http",
                               ports := [80, 81] },
    { ListenerRecord.blank with vip := "10.0.0.1", balancer := "clb-1", protocol := "HTTPS",
                                ports := [443], sslMode := "UNIDIRECTIONAL",
                                certificates := ["c-2", "c-1"] },
    { ListenerRecord.blank with vip := "10.0.0.1", balancer := "clb-1", protocol := "HTTP",
                                ports := [443] }]

/-- The first one can be created, the second one exists, and the third one is ruled out. -/
theorem validateRecords_listeners_serving :
    (validateRecords listenerRules servingContext servingCloud servingRecords).1.map
      (fun vs => vs.map fun v => v.state.status) = .ok [.executable, .existing, .notExecutable] ∧
    ListenerVerdicts servingContext servingCloud servingRecords
      (validateRecords listenerRules servingContext servingCloud servingRecords).1 :=
  ⟨by decide +kernel, validateRecords_listeners servingContext servingCloud rfl servingRecords⟩

end BalancerImport
