import BalancerImport.Proofs.Check.Annotation
import BalancerImport.Proofs.Import.Reachable
import BalancerImport.Proofs.Record.RoundTrip

/-!
# Validating again

The answer to a request to validate records is a document that can be sent as such a request again.
It is answered by itself: what a validation notes is not looked at by the next one.

* `readBack_refreshed`: a validated batch that is written and read starts over as the batch did;
* `Offer.storable_of_mem`: what is known about the records of both offers;
* `ListenerRecord.SameRequest`, `BackendRecord.SameRequest`, `SameRequests`: records, and documents,
  that ask for the same;
* **`Service.validate_stable`**: validation is idempotent, also after a preview, and blind to what
  it notes itself; `Service.validate_stable_stale`: as for a request with stale notes.
-/

namespace BalancerImport

open Importable Separable Storable

/-! ## Batches -/

section

variable {R : Type} [Importable R] [Separable R] [Storable R] {rules : VendorRules R}
  {ctx : Context} {cloud : Cloud} {rs validated : List R}

omit [Storable R] in
/-- What an unresolved record becomes when validation starts. -/
theorem Unresolved.refreshed_eq {r : R} (h : Unresolved r) : refreshed r = canonical (bare r) := by
  rw [refreshed, mapState, RecordState.reset, h]

theorem sized_validated (hrules : rules.Annotating) (hrs : ∀ r ∈ rs, Sized r ∧ Unresolved r)
    (h : (validateRecords rules ctx cloud rs).1 = .ok validated) : ∀ v ∈ validated, Sized v := by
  intro v hv
  have hmem : bare v ∈ rs.map fun r => canonical (bare r) :=
    map_bare_validateRecords hrules h ▸ List.mem_map_of_mem hv
  obtain ⟨r, hr, he⟩ := List.mem_map.mp hmem
  rw [← sized_bare, ← he, sized_canonical, sized_bare]
  exact (hrs r hr).1

/-- **A validated batch that is written and read starts over as the batch did.** -/
theorem readBack_refreshed (hrules : rules.Annotating) (hrs : ∀ r ∈ rs, Sized r ∧ Unresolved r)
    (h : (validateRecords rules ctx cloud rs).1 = .ok validated) :
    ∃ again : List R, decodeAll? (encodeAll validated) = some again ∧
      again.map refreshed = rs.map refreshed := by
  have hread := decodeAll?_encodeAll (sized_validated hrules hrs h)
  refine ⟨_, hread, ?_⟩
  have hagain : ∀ r ∈ validated, refreshed (withState (state r) (bare r)) = canonical (bare r) := by
    intro r hr
    have hr := (decodeAll?_unresolved hread _ (List.mem_map_of_mem hr)).2
    rw [hr.refreshed_eq, bare_withState, bare_bare]
  calc (validated.map fun r => withState (state r) (bare r)).map refreshed
      = (validated.map bare).map canonical := by
        rw [List.map_map, List.map_map]
        exact List.map_congr_left hagain
    _ = rs.map fun r => canonical (bare r) := by
        rw [map_bare_validateRecords hrules h, List.map_map]
        exact List.map_congr_left fun r _ => canonical_canonical _
    _ = rs.map refreshed := List.map_congr_left fun r hr => (hrs r hr).2.refreshed_eq.symm

end

/-! ## Offers -/

/-- The records of every offer can be stored, and its rules do nothing but annotate them. -/
theorem Offer.storable_of_mem {o : Offer} (h : o ∈ Offer.all) :
    ∃ (_ : Separable o.Record) (_ : Storable o.Record), o.capability.rules.Annotating := by
  simp only [Offer.all, List.mem_cons, List.not_mem_nil, or_false] at h
  rcases h with rfl | rfl
  · exact ⟨inferInstanceAs (Separable ListenerRecord), inferInstanceAs (Storable ListenerRecord),
      ListenerRules.annotating⟩
  · exact ⟨inferInstanceAs (Separable BackendRecord), inferInstanceAs (Storable BackendRecord),
      BackendRules.annotating⟩

theorem Offer.operation_of_find {vendor : Vendor} {operation : Operation} {o : Offer}
    (h : Offer.find vendor operation = .ok o) : o.operation = operation := by
  unfold Offer.find at h
  split at h
  · rename_i o' ho
    obtain rfl := Except.ok.inj h
    have hholds := List.find?_some ho
    simp only [Bool.and_eq_true, beq_iff_eq] at hholds
    exact hholds.2
  · exact nomatch h

/-! ## Requests -/

/-- Two records ask for the same listener: they differ at most in what is noted about them, and in
how their protocol and their mode are written. -/
structure ListenerRecord.SameRequest (r s : ListenerRecord) : Prop where
  vip : r.vip = s.vip
  balancer : r.balancer = s.balancer
  protocol : Named.raised r.protocol = Named.raised s.protocol
  ports : r.ports = s.ports
  sslMode : Named.raised r.sslMode = Named.raised s.sslMode
  certificates : r.certificates = s.certificates
  ca : r.ca = s.ca
  remark : r.remark = s.remark

/-- Two records ask for the same backend: they differ at most in what is noted about them, and in how
their protocol and their kind are written. -/
structure BackendRecord.SameRequest (r s : BackendRecord) : Prop where
  vip : r.vip = s.vip
  balancer : r.balancer = s.balancer
  protocol : Named.raised r.protocol = Named.raised s.protocol
  ports : r.ports = s.ports
  domain : r.domain = s.domain
  path : r.path = s.path
  kind : Named.raised r.kind = Named.raised s.kind
  ip : r.ip = s.ip
  backendPorts : r.backendPorts = s.backendPorts
  weight : r.weight = s.weight
  remark : r.remark = s.remark
  backendRemark : r.backendRemark = s.backendRemark

/-- Two documents hold records of an operation that ask for the same, one by one. -/
inductive SameRequests : Operation → Json → Json → Prop where
  | listeners {j j' : Json} {rs rs' : List ListenerRecord} (hj : decodeAll? j = some rs)
      (hj' : decodeAll? j' = some rs') (hsame : List.Forall₂ ListenerRecord.SameRequest rs rs') :
      SameRequests .createListener j j'
  | backends {j j' : Json} {rs rs' : List BackendRecord} (hj : decodeAll? j = some rs)
      (hj' : decodeAll? j' = some rs') (hsame : List.Forall₂ BackendRecord.SameRequest rs rs') :
      SameRequests .bindBackend j j'

theorem ListenerRecord.SameRequest.refreshed_eq {r s : ListenerRecord} (h : r.SameRequest s)
    (hr : Unresolved r) (hs : Unresolved s) : refreshed r = refreshed s := by
  rw [hr.refreshed_eq, hs.refreshed_eq]
  simp only [Importable.canonical, ListenerRecord.canonical, bare, h.vip, h.balancer, h.protocol,
    h.ports, h.sslMode, h.certificates, h.ca, h.remark]

theorem BackendRecord.SameRequest.refreshed_eq {r s : BackendRecord} (h : r.SameRequest s)
    (hr : Unresolved r) (hs : Unresolved s) : refreshed r = refreshed s := by
  rw [hr.refreshed_eq, hs.refreshed_eq]
  simp only [Importable.canonical, BackendRecord.canonical, bare, h.vip, h.balancer, h.protocol,
    h.ports, h.domain, h.path, h.kind, h.ip, h.backendPorts, h.weight, h.remark, h.backendRemark]

/-- Records of documents that ask for the same start validation as the same. -/
theorem map_refreshed_of_forall₂ {R : Type} [Importable R] [Separable R] [Storable R]
    {Same : R → R → Prop}
    (hsame : ∀ r s, Same r s → Unresolved r → Unresolved s → refreshed r = refreshed s)
    {j j' : Json} {rs rs' : List R} (hj : decodeAll? j = some rs) (hj' : decodeAll? j' = some rs')
    (h : List.Forall₂ Same rs rs') : rs.map refreshed = rs'.map refreshed := by
  have hrs := decodeAll?_unresolved hj
  have hrs' := decodeAll?_unresolved hj'
  clear hj hj'
  induction h with
  | nil => rfl
  | cons hr _ ih =>
    obtain ⟨⟨-, hl⟩, hls⟩ := List.forall_mem_cons.mp hrs
    obtain ⟨⟨-, hr'⟩, hrs'⟩ := List.forall_mem_cons.mp hrs'
    rw [List.map_cons, List.map_cons, hsame _ _ hr hl hr', ih hls hrs']

/-! ## The service -/

namespace Service

variable {L K : Type} {ctx : Context} {operation : Operation} {d d' : Desk L K}

/-- What the service answers to documents whose records are validated. -/
def answer (o : Offer) (ctx : Context) (cloud : Cloud) (rs : List o.Record) :
    Except ImportError Json :=
  ((validateRecords o.capability.rules ctx cloud rs).1.mapError ImportError.check).map encodeAll

theorem validate_eq_answer {o : Offer} {json : Json} {rs : List o.Record}
    (ho : Offer.find ctx.vendor operation = .ok o) (hrs : decodeAll? json = some rs) :
    (validate ctx operation json d).1 = answer o ctx d.cloud rs := by
  simp only [validate, ho, Offer.decode, hrs]
  rfl

theorem validate_ok {json out : Json} (h : (validate ctx operation json d).1 = .ok out) :
    ∃ (o : Offer) (rs : List o.Record), Offer.find ctx.vendor operation = .ok o ∧
      decodeAll? json = some rs ∧ answer o ctx d.cloud rs = .ok out := by
  cases ho : Offer.find ctx.vendor operation with
  | error e => simp [validate, ho] at h
  | ok o =>
    cases hrs : (decodeAll? json : Option (List o.Record)) with
    | none => simp [validate, ho, Offer.decode, hrs] at h
    | some rs => exact ⟨o, rs, rfl, hrs, validate_eq_answer (d := d) ho hrs ▸ h⟩

theorem preview_eq_answer {o : Offer} {rows : List (List String)} {rs : List o.Record}
    (ho : Offer.find ctx.vendor operation = .ok o) (hrs : Sheet.readRows rows = .ok rs) :
    (preview ctx operation rows d).1 = answer o ctx d.cloud rs := by
  simp only [preview, ho, hrs]
  rfl

theorem preview_ok {rows : List (List String)} {out : Json}
    (h : (preview ctx operation rows d).1 = .ok out) :
    ∃ (o : Offer) (rs : List o.Record), Offer.find ctx.vendor operation = .ok o ∧
      Sheet.readRows rows = .ok rs ∧ answer o ctx d.cloud rs = .ok out := by
  cases ho : Offer.find ctx.vendor operation with
  | error e => simp [preview, ho] at h
  | ok o =>
    cases hrs : (Sheet.readRows rows : Except SheetFault (List o.Record)) with
    | error fault => simp [preview, ho, hrs] at h
    | ok rs => exact ⟨o, rs, rfl, hrs, preview_eq_answer (d := d) ho hrs ▸ h⟩

theorem answer_congr {o : Offer} {cloud : Cloud} {rs rs' : List o.Record}
    (h : rs.map refreshed = rs'.map refreshed) : answer o ctx cloud rs = answer o ctx cloud rs' := by
  rw [answer, answer, validateRecords_congr h]

/-- An answer that is sent again is the answer. -/
theorem answer_again {o : Offer} (ho : o ∈ Offer.all) {cloud : Cloud} {rs : List o.Record}
    (hrs : ∀ [Separable o.Record] [Storable o.Record], ∀ r ∈ rs, Sized r ∧ Unresolved r) {out : Json}
    (h : answer o ctx cloud rs = .ok out) :
    ∃ again : List o.Record, decodeAll? out = some again ∧ answer o ctx cloud again = .ok out := by
  obtain ⟨_, _, hrules⟩ := Offer.storable_of_mem ho
  obtain ⟨validated, hvalidated, rfl⟩ := map_ok h
  obtain ⟨again, hagain, hrefreshed⟩ := readBack_refreshed hrules hrs (mapError_ok hvalidated)
  exact ⟨again, hagain, (answer_congr hrefreshed).trans h⟩

/-- **Validation is idempotent and blind to what it notes**: while the cloud does not change, the
answer to a request, or to a preview, is answered by itself, and requests that ask for the same get
the same answer, be it an error. -/
theorem validate_stable (ctx : Context) (operation : Operation) (d d' : Desk L K)
    (hcloud : d'.cloud = d.cloud) :
    (∀ json out, (validate ctx operation json d).1 = .ok out →
      (validate ctx operation out d').1 = .ok out) ∧
    (∀ rows out, (preview ctx operation rows d).1 = .ok out →
      (validate ctx operation out d').1 = .ok out) ∧
    ∀ json json', SameRequests operation json json' →
      (validate ctx operation json d).1 = (validate ctx operation json' d').1 := by
  refine ⟨fun json out h => ?_, fun rows out h => ?_, fun json json' hsame => ?_⟩
  · obtain ⟨o, rs, ho, hrs, hanswer⟩ := validate_ok h
    obtain ⟨again, hagain, he⟩ :=
      answer_again (Desk.mem_all_of_find ho) (decodeAll?_unresolved hrs) hanswer
    rw [validate_eq_answer ho hagain, hcloud, he]
  · obtain ⟨o, rs, ho, hrs, hanswer⟩ := preview_ok h
    obtain ⟨again, hagain, he⟩ :=
      answer_again (Desk.mem_all_of_find ho) (Sheet.readRows_unresolved hrs) hanswer
    rw [validate_eq_answer ho hagain, hcloud, he]
  · cases ho : Offer.find ctx.vendor operation with
    | error e => simp [validate, ho]
    | ok o =>
      have hoperation := Offer.operation_of_find ho
      have hmem := Desk.mem_all_of_find ho
      simp only [Offer.all, List.mem_cons, List.not_mem_nil, or_false] at hmem
      cases hsame with
      | listeners hj hj' hsame =>
        rcases hmem with rfl | rfl
        · rw [validate_eq_answer ho hj, validate_eq_answer ho hj', hcloud]
          exact answer_congr (map_refreshed_of_forall₂
            (fun _ _ => ListenerRecord.SameRequest.refreshed_eq) hj hj' hsame)
        · cases hoperation
      | backends hj hj' hsame =>
        rcases hmem with rfl | rfl
        · cases hoperation
        · rw [validate_eq_answer ho hj, validate_eq_answer ho hj', hcloud]
          exact answer_congr (map_refreshed_of_forall₂
            (fun _ _ => BackendRecord.SameRequest.refreshed_eq) hj hj' hsame)

/-- A request with what an earlier validation noted, and with a member that no record has. -/
def staleRequest : Json :=
  .arr [.obj [("clb_vip_domain", .str "first"), ("cloud_clb_id", .str "clb-1"),
    ("protocol", .str " http "), ("listener_port", .arr [.nat 80]), ("status", .str "not_executable"),
    ("validate_result", .strs ["duplicado"]), ("line", .nat 1)]]

/-- The record of the request before and after its validation. -/
def staleRecords (protocol : String) (state : RecordState) : List ListenerRecord :=
  [{ Desk.sampleRecord "clb-1" "first" 80 with protocol := protocol, state := state }]

/-- A stale request, and rows that hold the same, are answered like the request written anew. -/
theorem validate_stable_stale :
    ∃ out, (validate Desk.sampleContext .createListener staleRequest (Desk.sample none false)).1 =
        .ok out ∧
      (preview Desk.sampleContext .createListener [["first", "clb-1", "http", "80"]]
        (Desk.sample none false)).1 = .ok out ∧
      (validate Desk.sampleContext .createListener out (Desk.sample (some 1) true)).1 = .ok out ∧
      (validate Desk.sampleContext .createListener
        (encodeAll (staleRecords "HTTP" .initial)) (Desk.sample (some 1) true)).1 = .ok out := by
  obtain ⟨hagain, -, hsame⟩ := validate_stable Desk.sampleContext .createListener
    (Desk.sample none false) (Desk.sample (some 1) true) rfl
  have hstale : decodeAll? staleRequest =
      some (staleRecords " http " ⟨.notExecutable, ["duplicado"]⟩) := by decide +kernel
  have hanew : decodeAll? (encodeAll (staleRecords "HTTP" .initial)) =
      some (staleRecords "HTTP" .initial) := by decide +kernel
  have hrows : Sheet.readRows [["first", "clb-1", "http", "80"]] =
      .ok (staleRecords "HTTP" .initial) := by decide +kernel
  have hanswer : ∀ rs ∈ [staleRecords " http " ⟨.notExecutable, ["duplicado"]⟩,
      staleRecords "HTTP" .initial], answer .listeners Desk.sampleContext Desk.sampleCloud rs =
        .ok (encodeAll [{ Desk.sampleRecord "clb-1" "first" 80 with
          state := ⟨.executable, []⟩, lbId := some "lb-1" }]) := by
    intro rs hrs
    have hvalid : ∀ rs ∈ [staleRecords " http " ⟨.notExecutable, ["duplicado"]⟩,
        staleRecords "HTTP" .initial],
        (validateRecords listenerRules Desk.sampleContext Desk.sampleCloud rs).1 =
          .ok [{ Desk.sampleRecord "clb-1" "first" 80 with
            state := ⟨.executable, []⟩, lbId := some "lb-1" }] := by decide +kernel
    exact congrArg (fun x => (x.mapError ImportError.check).map encodeAll) (hvalid rs hrs)
  have hfind : Offer.find Desk.sampleContext.vendor .createListener = .ok .listeners := rfl
  have hvalidate := (validate_eq_answer (d := Desk.sample none false) hfind hstale).trans
    (hanswer _ List.mem_cons_self)
  have hpreviewed := (preview_eq_answer (d := Desk.sample none false) hfind hrows).trans
    (hanswer _ (List.mem_cons_of_mem _ List.mem_cons_self))
  refine ⟨_, hvalidate, hpreviewed, hagain _ _ hvalidate, ?_⟩
  rw [← hvalidate]
  refine (hsame _ _ (.listeners hstale hanew (.cons ?_ .nil))).symm
  constructor <;> decide +kernel

end Service

end BalancerImport
