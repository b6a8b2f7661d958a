import BalancerImport.Check.ListenerRules
import BalancerImport.Proofs.Record.Parts

/-!
# Comparing a record with the listeners on its port

A listener other than UDP is the one that a record asks for, or the record is told what tells them
apart; the comparison fails where an HTTPS listener has no certificate to be compared.

* `SameCertificates`, `Fits`: a listener that a record asks for; `Uncertified`: one that cannot be
  compared;
* `compare_cases`: what the comparison with one listener does;
* `Settled`: the state of a record after some comparisons;
* **`compareAll_ok`**, **`compareAll_error`**: what the comparison with all of them does.
-/

namespace BalancerImport.ListenerRules

/-- The certificates of a listener are those of a record: the mode but for the case of ASCII
letters, the authority, and the set of certificates. -/
structure SameCertificates (r : ListenerRecord) (c : Certificate) : Prop where
  mode : (c.sslMode.getD "").toList.map Char.toLower = r.sslMode.toList.map Char.toLower
  authority : c.ca.getD "" = r.ca
  certificates : ∀ id, id ∈ c.certificates ↔ id ∈ r.certificates

/-- A listener is the one that a record asks for. -/
structure Fits (r : ListenerRecord) (l : Listener) : Prop where
  sni : l.sni = false
  protocol : r.protocol? = some l.protocol
  certificate : l.protocol = .https → ∃ c, l.certificate = some c ∧ SameCertificates r c

/-- A listener that would have to be compared with an HTTPS record, and has no certificate. -/
structure Uncertified (r : ListenerRecord) (l : Listener) : Prop where
  protocol : l.protocol = .https
  record : r.protocol? = some .https
  certificate : l.certificate = none

theorem sameTexts_iff {xs ys : List String} : sameTexts xs ys = true ↔ ∀ s, s ∈ xs ↔ s ∈ ys := by
  simp only [sameTexts, Bool.and_eq_true, List.all_eq_true, List.contains_iff_mem]
  exact ⟨fun h s => ⟨h.1 s, h.2 s⟩, fun h => ⟨fun s => (h s).mp, fun s => (h s).mpr⟩⟩

theorem certificateDifferences_eq_nil {r : ListenerRecord} {l : Listener} {c : Certificate} :
    certificateDifferences r l c = [] ↔ SameCertificates r c := by
  have hmode : sameIgnoringCase (c.sslMode.getD "") r.sslMode = true ↔
      (c.sslMode.getD "").toList.map Char.toLower = r.sslMode.toList.map Char.toLower := beq_iff_eq
  simp only [certificateDifferences, List.append_eq_nil_iff, ite_eq_left_iff,
    List.cons_ne_nil, imp_false, not_not, hmode, sameTexts_iff, beq_iff_eq]
  exact ⟨fun h => ⟨h.1.1, h.1.2, h.2⟩, fun h => ⟨⟨h.mode, h.authority⟩, h.certificates⟩⟩

/-- **What a comparison does**: it passes over UDP, it fails, or it marks the record and tells it
reasons, of which there are none if the listener fits. -/
theorem compare_cases (r : ListenerRecord) (l : Listener) :
    l.protocol = .udp ∧ compare r l = .ok r ∨
    Uncertified r l ∧ compare r l = .error (.missingCertificate l.cloudId) ∨
    l.protocol ≠ .udp ∧ ¬ Uncertified r l ∧ ∃ reasons, (reasons = [] ↔ Fits r l) ∧
      compare r l = .ok { r with state := r.state.markExisting.rejectAll reasons } := by
  by_cases hudp : l.protocol = .udp
  · exact .inl ⟨hudp, by rw [compare, if_pos hudp]⟩
  · refine .inr ?_
    -- what speaks against the listener whatever its protocol
    obtain ⟨sni, hsni, hstate⟩ : ∃ reasons : List String, (reasons = [] ↔ l.sni = false) ∧
        (if l.sni then r.state.markExisting.reject
            s!"el listener {l.cloudId} del puerto {l.port} tiene SNI activado"
          else r.state.markExisting) = r.state.markExisting.rejectAll reasons := by
      cases l.sni with
      | false => exact ⟨[], by simp, rfl⟩
      | true => exact ⟨[_], by simp, rfl⟩
    rw [compare, if_neg hudp]
    simp only [hstate]
    by_cases hprotocol : r.protocol? = some l.protocol
    · rw [if_neg (not_not_intro hprotocol)]
      by_cases hhttps : l.protocol = .https
      · rw [if_neg (not_not_intro hhttps)]
        cases hc : l.certificate with
        | none => exact .inl ⟨⟨hhttps, hhttps ▸ hprotocol, hc⟩, rfl⟩
        | some c =>
          have hcertified : ¬ Uncertified r l := fun h => nomatch hc.symm.trans h.certificate
          refine .inr ⟨hudp, hcertified, sni ++ certificateDifferences r l c, ?_,
            by rw [RecordState.rejectAll_append]⟩
          rw [List.append_eq_nil_iff, hsni, certificateDifferences_eq_nil]
          refine ⟨fun h => ⟨h.1, hprotocol, fun _ => ⟨c, hc, h.2⟩⟩, fun h => ⟨h.sni, ?_⟩⟩
          obtain ⟨c', hc', hsame⟩ := h.certificate hhttps
          obtain rfl := Option.some.inj (hc.symm.trans hc')
          exact hsame
      · rw [if_pos hhttps]
        refine .inr ⟨hudp, fun h => hhttps h.protocol, sni, hsni.trans ⟨fun h => ?_, Fits.sni⟩, rfl⟩
        exact ⟨h, hprotocol, fun h => absurd h hhttps⟩
    · rw [if_pos hprotocol]
      refine .inr ⟨hudp, fun h => hprotocol (h.protocol ▸ h.record), sni ++ [_],
        ⟨fun h => by simp at h, fun h => absurd h.protocol hprotocol⟩,
        by rw [RecordState.rejectAll_concat]⟩

/-! ## All listeners -/

/-- What comparisons with some listeners make of a record's state. -/
structure Settled (r : ListenerRecord) (ls : List Listener) (s : RecordState) : Prop where
  free : (∀ l ∈ ls, l.protocol = .udp) → s = r.state
  existing : (∃ l ∈ ls, l.protocol ≠ .udp) → (∀ l ∈ ls, l.protocol ≠ .udp → Fits r l) →
    s.status = r.state.markExisting.status
  rejected : (∃ l ∈ ls, l.protocol ≠ .udp ∧ ¬ Fits r l) → s.status = .notExecutable

variable {r : ListenerRecord} {ls : List Listener} {s : RecordState}

/-- What is ruled out stays so. -/
theorem Settled.pinned (h : Settled r ls s) (hr : r.state.status = .notExecutable) :
    s.status = .notExecutable := by
  by_cases hudp : ∀ l ∈ ls, l.protocol = .udp
  · rw [h.free hudp, hr]
  · by_cases hfits : ∀ l ∈ ls, l.protocol ≠ .udp → Fits r l
    · rw [h.existing (by simpa using hudp) hfits, RecordState.markExisting, if_pos hr, hr]
    · exact h.rejected (by simpa using hfits)

/-- What a record is compared by does not depend on what is noted about it. -/
theorem fits_noted {l : Listener} {id : Option String} :
    Fits { r with state := s, lbId := id } l ↔ Fits r l := by
  have hsame : ∀ c, SameCertificates { r with state := s, lbId := id } c ↔ SameCertificates r c :=
    fun c => ⟨fun h => ⟨h.1, h.2, h.3⟩, fun h => ⟨h.1, h.2, h.3⟩⟩
  constructor
  · exact fun h => ⟨h.sni, h.protocol, fun hl => by simpa only [hsame] using h.certificate hl⟩
  · exact fun h => ⟨h.sni, h.protocol, fun hl => by simpa only [hsame] using h.certificate hl⟩

theorem uncertified_noted {l : Listener} {id : Option String} :
    Uncertified { r with state := s, lbId := id } l ↔ Uncertified r l :=
  ⟨fun h => ⟨h.1, h.2, h.3⟩, fun h => ⟨h.1, h.2, h.3⟩⟩

/-- A listener that is no longer passed over, and then the others. -/
theorem Settled.cons {l : Listener} {reasons : List String} (hl : l.protocol ≠ .udp)
    (hreasons : reasons = [] ↔ Fits r l)
    (h : Settled { r with state := r.state.markExisting.rejectAll reasons } ls s) :
    Settled r (l :: ls) s := by
  refine ⟨fun hall => absurd (hall l List.mem_cons_self) hl, fun _ hall => ?_, ?_⟩
  · -- marking a record again changes nothing
    have hmark : ∀ t : RecordState, t.markExisting.markExisting.status = t.markExisting.status := by
      rintro ⟨_ | _ | _ | _, _⟩ <;> rfl
    have hnone := hreasons.mpr (hall l List.mem_cons_self hl)
    subst hnone
    by_cases hudp : ∀ l ∈ ls, l.protocol = .udp
    · rw [h.free hudp, RecordState.rejectAll_nil]
    · refine (h.existing (by simpa using hudp) fun l' hl' hne => ?_).trans (hmark r.state)
      exact fits_noted.mpr (hall l' (List.mem_cons_of_mem _ hl') hne)
  · rintro ⟨l', hl', hne, hfits⟩
    rcases List.mem_cons.mp hl' with rfl | hl'
    · refine h.pinned ?_
      rw [RecordState.status_rejectAll, if_neg (mt hreasons.mp hfits)]
    · exact h.rejected ⟨l', hl', hne, mt fits_noted.mp hfits⟩

/-- A listener that is passed over, and then the others. -/
theorem Settled.cons_udp {l : Listener} (hl : l.protocol = .udp) (h : Settled r ls s) :
    Settled r (l :: ls) s := by
  refine ⟨fun hall => h.free fun l' hl' => hall l' (List.mem_cons_of_mem _ hl'), ?_, ?_⟩
  · rintro ⟨l', hl', hne⟩ hall
    rcases List.mem_cons.mp hl' with rfl | hl'
    · exact absurd hl hne
    · exact h.existing ⟨l', hl', hne⟩ fun l₂ hl₂ => hall l₂ (List.mem_cons_of_mem _ hl₂)
  · rintro ⟨l', hl', hne, hfits⟩
    rcases List.mem_cons.mp hl' with rfl | hl'
    · exact absurd hl hne
    · exact h.rejected ⟨l', hl', hne, hfits⟩

/-- **What comparisons that do not fail make of a record.** -/
theorem compareAll_ok : ∀ {ls : List Listener} {r r' : ListenerRecord},
    compareAll r ls = .ok r' → (∀ l ∈ ls, ¬ Uncertified r l) ∧
      ∃ s, r' = { r with state := s } ∧ Settled r ls s
  | [], r, r', h => by
    obtain rfl := Except.ok.inj h
    exact ⟨by simp, r.state, rfl, ⟨fun _ => rfl, by simp, by simp⟩⟩
  | l :: ls, r, r', h => by
    rw [compareAll] at h
    rcases compare_cases r l with ⟨hl, hc⟩ | ⟨-, hc⟩ | ⟨hl, hcert, reasons, hreasons, hc⟩
    · rw [hc] at h
      obtain ⟨hrest, s, hs, hsettled⟩ := compareAll_ok h
      refine ⟨List.forall_mem_cons.mpr ⟨fun hu => ?_, hrest⟩, s, hs, hsettled.cons_udp hl⟩
      exact nomatch hl.symm.trans hu.protocol
    · rw [hc] at h
      exact nomatch h
    · rw [hc] at h
      obtain ⟨hrest, s, hs, hsettled⟩ := compareAll_ok h
      refine ⟨List.forall_mem_cons.mpr ⟨hcert, fun l' hl' => ?_⟩, s, hs, hsettled.cons hl hreasons⟩
      exact mt uncertified_noted.mpr (hrest l' hl')

/-- **Comparisons fail only where a listener has no certificate.** -/
theorem compareAll_error : ∀ {ls : List Listener} {r : ListenerRecord} {e : CheckError},
    compareAll r ls = .error e → ∃ l ∈ ls, Uncertified r l ∧ e = .missingCertificate l.cloudId
  | [], _, _, h => nomatch h
  | l :: ls, r, e, h => by
    rw [compareAll] at h
    rcases compare_cases r l with ⟨-, hc⟩ | ⟨hu, hc⟩ | ⟨-, -, reasons, -, hc⟩
    · rw [hc] at h
      obtain ⟨l', hl', hfail⟩ := compareAll_error h
      exact ⟨l', List.mem_cons_of_mem _ hl', hfail⟩
    · rw [hc] at h
      exact ⟨l, List.mem_cons_self, hu, (Except.error.inj h).symm⟩
    · rw [hc] at h
      obtain ⟨l', hl', hu, he⟩ := compareAll_error h
      exact ⟨l', List.mem_cons_of_mem _ hl', uncertified_noted.mp hu, he⟩

end BalancerImport.ListenerRules
