import BalancerImport.Proofs.Record.Parts

/-!
# The rules of a record by itself

What a record in canonical form has to be like for nothing to be wrong with it by itself.

* `Named.find?_eq_some`, `Protocol.ofText?_eq_some`, `BackendKind.ofText?_eq_some`: words;
* `PortNumber.next`, `PortRun`: ports that follow each other; `portViolations_ranges`,
  `portViolations_single`, `portViolations_eq_nil_iff`;
* **`ListenerRecord.violations_eq_nil`**, **`BackendRecord.violations_eq_nil`**: a record gets
  nothing wrong if and only if it is well formed;
* `Ruled`: a kind of record of which it is known when it is well formed; both kinds are.
-/

namespace BalancerImport

/-! ## Words -/

/-- The member with a word is the one that is written so. -/
theorem Named.find?_eq_some {α : Type} [Named α] (hall : ∀ a : α, Named.find? (Named.name a) = some a)
    {word : String} {a : α} : Named.find? word = some a ↔ word = Named.name a := by
  refine ⟨fun h => ?_, fun h => h ▸ hall a⟩
  have hmem : (word, a) ∈ (Named.table : List (String × α)) := mem_of_lookup h
  obtain ⟨b, -, hb⟩ := List.mem_map.mp hmem
  obtain ⟨rfl, rfl⟩ := Prod.mk.inj hb
  rfl

theorem Named.findIn_toOption {α : Type} [Named α] (vocabulary word : String) :
    (Named.findIn vocabulary word : Except CloudError α).toOption = Named.find? word := by
  unfold Named.findIn
  split
  · rename_i a ha
    rw [ha]
    rfl
  · rename_i hnone
    rw [hnone]
    rfl

theorem Protocol.ofText?_eq_some {s : String} {p : Protocol} :
    Protocol.ofText? s = some p ↔ Named.raised s = Named.name p := by
  rw [Protocol.ofText?, Protocol.parse, Named.findIn_toOption,
    Named.find?_eq_some fun a => by cases a <;> decide]

theorem BackendKind.ofText?_eq_some {s : String} {k : BackendKind} :
    BackendKind.ofText? s = some k ↔ Named.raised s = Named.name k := by
  rw [BackendKind.ofText?, BackendKind.parse, Named.findIn_toOption,
    Named.find?_eq_some fun a => by cases a <;> decide]

/-! ## Ports -/

/-- A number that a port may have. -/
def PortNumber (p : Nat) : Prop := 1 ≤ p ∧ p ≤ 65535

/-- All ports from a first to a last one. -/
def PortRun (ports : List Nat) : Prop :=
  ∃ first last, 1 ≤ first ∧ first ≤ last ∧ last ≤ 65535 ∧
    ports = List.range' first (last + 1 - first)

/-- No port is so great that the next one is `0`. -/
theorem PortNumber.next {p : Nat} (h : PortNumber p) : nextPort p = p + 1 := by
  refine Nat.mod_eq_of_lt ?_
  have hle : p ≤ 65535 := h.2
  simp only [Text.maxWord32]
  omega

theorem isConsecutive_range' : ∀ first n : Nat, (∀ p ∈ List.range' first n, PortNumber p) →
    isConsecutive (List.range' first n) = true
  | _, 0, _ => rfl
  | _, 1, _ => rfl
  | first, n + 2, h => by
    rw [List.range'_succ] at h
    have hfirst : PortNumber first := h first List.mem_cons_self
    rw [List.range'_succ, List.range'_succ, isConsecutive, hfirst.next, Bool.and_eq_true,
      beq_iff_eq]
    exact ⟨rfl, isConsecutive_range' (first + 1) (n + 1) fun p hp =>
      h p (List.mem_cons_of_mem _ hp)⟩

theorem eq_range'_of_isConsecutive : ∀ {first : Nat} {rest : List Nat},
    (∀ p ∈ first :: rest, PortNumber p) → isConsecutive (first :: rest) = true →
    first :: rest = List.range' first (rest.length + 1)
  | _, [], _, _ => rfl
  | first, second :: rest, hports, h => by
    have hfirst : PortNumber first := hports first List.mem_cons_self
    rw [isConsecutive, hfirst.next, Bool.and_eq_true, beq_iff_eq] at h
    rw [List.length_cons, List.range'_succ,
      eq_range'_of_isConsecutive (fun p hp => hports p (List.mem_cons_of_mem _ hp)) h.2, h.1]

-- Numbers that are no ports can follow each other downwards.
example : isConsecutive [4294967295, 0] = true := by decide

theorem any_outside_eq_false {ports : List Nat} :
    (ports.any fun p => p == 0 || 65535 < p) = false ↔ ∀ p ∈ ports, PortNumber p := by
  rw [List.any_eq_false]
  refine forall₂_congr fun p _ => ?_
  simp only [PortNumber, Bool.or_eq_true, beq_iff_eq, decide_eq_true_eq]
  omega

/-- Which lists of ports are right, whether ranges are admitted or not. -/
theorem portViolations_eq_nil {field : String} {ports : List Nat} {ranges : Bool} :
    portViolations field ports ranges = [] ↔ ports ≠ [] ∧ (∀ p ∈ ports, PortNumber p) ∧
      (ranges = true ∨ ports.length ≤ 1) ∧ isConsecutive ports = true := by
  have hnumbers : ∀ fault : String, (if ports.any fun p => p == 0 || 65535 < p then [fault] else []) =
      [] ↔ ∀ p ∈ ports, PortNumber p := by
    intro fault
    rw [← any_outside_eq_false]
    cases ports.any fun p => p == 0 || 65535 < p <;> simp
  have hshape : ∀ fault fault' : String, (if !ranges && 1 < ports.length then [fault]
      else if !isConsecutive ports then [fault'] else []) = [] ↔
        (ranges = true ∨ ports.length ≤ 1) ∧ isConsecutive ports = true := by
    intro fault fault'
    by_cases hone : ports.length ≤ 1 <;> cases ranges <;> cases isConsecutive ports <;>
      simp [hone, Nat.not_lt.mpr, Nat.not_le.mp]
  unfold portViolations
  cases ports with
  | nil => simp
  | cons first rest =>
    rw [if_neg (by simp), List.append_eq_nil_iff, hnumbers, hshape]
    simp

/-- **Where ranges are admitted, a list of ports is right if it is one.** -/
theorem portViolations_ranges {field : String} {ports : List Nat} :
    portViolations field ports true = [] ↔ PortRun ports := by
  rw [portViolations_eq_nil]
  constructor
  · rintro ⟨hne, hports, -, hrun⟩
    cases ports with
    | nil => exact absurd rfl hne
    | cons first rest =>
      have hrange := eq_range'_of_isConsecutive hports hrun
      have hlast : first + rest.length ∈ first :: rest := by
        rw [hrange, List.mem_range'_1]
        omega
      refine ⟨first, first + rest.length, (hports _ List.mem_cons_self).1, by omega,
        (hports _ hlast).2, ?_⟩
      rw [hrange]
      congr 1
      omega
  · rintro ⟨first, last, hfirst, hle, hlast, rfl⟩
    have hports : ∀ p ∈ List.range' first (last + 1 - first), PortNumber p := by
      intro p hp
      have hmem := List.mem_range'_1.mp hp
      constructor <;> omega
    refine ⟨?_, hports, .inl rfl, isConsecutive_range' _ _ hports⟩
    rw [ne_eq, List.range'_eq_nil_iff]
    omega

/-- **Elsewhere, if it is a single port.** -/
theorem portViolations_single {field : String} {ports : List Nat} :
    portViolations field ports false = [] ↔ ∃ p, ports = [p] ∧ PortNumber p := by
  rw [portViolations_eq_nil]
  constructor
  · rintro ⟨hne, hports, hlength, -⟩
    match ports, hne, hports, hlength with
    | [p], _, hports, _ => exact ⟨p, rfl, hports p List.mem_cons_self⟩
    | _ :: _ :: _, _, _, hlength => simp at hlength
  · rintro ⟨p, rfl, hp⟩
    exact ⟨by simp, by simpa using hp, .inr (Nat.le_refl 1), rfl⟩

theorem portRun_iff {ports : List Nat} : PortRun ports ↔
    ports ≠ [] ∧ (∀ p ∈ ports, PortNumber p) ∧ isConsecutive ports = true := by
  have hrun : portViolations "" ports true = [] ↔ PortRun ports := portViolations_ranges
  rw [← hrun, portViolations_eq_nil]
  simp only [true_or, true_and]

theorem portRun_singleton {p : Nat} : PortRun [p] ↔ PortNumber p := by
  simp [portRun_iff, isConsecutive]

theorem portRun_pair {a b : Nat} : PortRun [a, b] ↔ PortNumber a ∧ PortNumber b ∧ b = a + 1 := by
  have hiff : PortRun [a, b] ↔ PortNumber a ∧ PortNumber b ∧ b = nextPort a := by
    simp [portRun_iff, isConsecutive, and_assoc]
  rw [hiff]
  refine and_congr_right fun ha => ?_
  rw [ha.next]

/-- Wherever a list of ports is from, it is right if it goes from a port up to a port. -/
theorem portViolations_eq_nil_iff {field : String} {ports : List Nat} {ranges : Bool} :
    portViolations field ports ranges = [] ↔
      ∃ a b, 1 ≤ a ∧ a ≤ b ∧ b ≤ 65535 ∧ (ranges = true ∨ a = b) ∧
        ports = List.range' a (b + 1 - a) := by
  cases ranges with
  | true => simp only [portViolations_ranges, PortRun, true_or, true_and]
  | false =>
    rw [portViolations_single]
    constructor
    · rintro ⟨p, rfl, hfirst, hlast⟩
      exact ⟨p, p, hfirst, le_rfl, hlast, .inr rfl, by rw [Nat.add_sub_cancel_left]; rfl⟩
    · rintro ⟨p, _, hfirst, -, hlast, hsame, rfl⟩
      obtain rfl := hsame.resolve_left nofun
      exact ⟨p, by rw [Nat.add_sub_cancel_left]; rfl, hfirst, hlast⟩

/-! ## Records -/

namespace ListenerRecord

/-- What a record in canonical form has to be like: it names a balancer and ports that follow each
other, and its certificates are those of its protocol. -/
structure WellFormed (r : ListenerRecord) : Prop where
  balancer : r.balancer ≠ ""
  ports : PortRun r.ports
  security : (r.protocol = "HTTP" ∧ r.sslMode = "" ∧ r.certificates = [] ∧ r.ca = "") ∨
    (r.protocol = "HTTPS" ∧ r.certificates ≠ [] ∧
      (r.sslMode = "UNIDIRECTIONAL" ∨ r.sslMode = "MUTUAL" ∧ r.ca ≠ ""))

theorem protocol?_canonical (r : ListenerRecord) (p : Protocol) :
    r.canonical.protocol? = some p ↔ r.canonical.protocol = Named.name p := by
  simp only [protocol?, canonical, Protocol.ofText?_eq_some, Named.raised_raised]

theorem certificateViolations_eq_nil {r : ListenerRecord} :
    r.certificateViolations = [] ↔ r.certificates ≠ [] ∧
      (r.sslMode = "UNIDIRECTIONAL" ∨ r.sslMode = "MUTUAL" ∧ r.ca ≠ "") := by
  have hcertificates : ∀ fault : String, (if r.certificates.isEmpty then [fault] else []) = [] ↔
      r.certificates ≠ [] := by
    intro fault
    cases r.certificates <;> simp
  rw [certificateViolations, List.append_eq_nil_iff, hcertificates, and_comm]
  refine and_congr_right fun _ => ?_
  by_cases hnone : r.sslMode = ""
  · simp [hnone]
  · by_cases hone : r.sslMode = "UNIDIRECTIONAL"
    · simp [hone]
    · by_cases hboth : r.sslMode = "MUTUAL"
      · simp [hboth]
      · simp [hnone, hone, hboth]

/-- **A record gets nothing wrong if and only if it is well formed.** -/
theorem violations_eq_nil (r : ListenerRecord) :
    violations r.canonical = [] ↔ r.canonical.WellFormed := by
  have hhttp := protocol?_canonical r .http
  have hhttps := protocol?_canonical r .https
  generalize r.canonical = c at hhttp hhttps
  have hbalancer : (if c.balancer.isEmpty then ["cloud_clb_id: obligatorio"] else []) = [] ↔
      c.balancer ≠ "" := by simp
  rw [violations, List.append_eq_nil_iff, List.append_eq_nil_iff, hbalancer, portViolations_ranges]
  split
  · rename_i hprotocol
    have hname : c.protocol = "HTTP" := hhttp.mp hprotocol
    have hempty : (if !c.sslMode.isEmpty || !c.certificates.isEmpty || !c.ca.isEmpty then
        ["HTTP no admite campos de certificado"] else []) = [] ↔
        c.sslMode = "" ∧ c.certificates = [] ∧ c.ca = "" := by
      simp [and_assoc]
    rw [hempty]
    refine ⟨fun h => ⟨h.1.1, h.1.2, .inl ⟨hname, h.2⟩⟩, fun h => ⟨⟨h.balancer, h.ports⟩, ?_⟩⟩
    rcases h.security with hs | hs
    · exact hs.2
    · exact absurd (hname.symm.trans hs.1) (by decide)
  · rename_i hprotocol
    have hname : c.protocol = "HTTPS" := hhttps.mp hprotocol
    rw [certificateViolations_eq_nil]
    refine ⟨fun h => ⟨h.1.1, h.1.2, .inr ⟨hname, h.2⟩⟩, fun h => ⟨⟨h.balancer, h.ports⟩, ?_⟩⟩
    rcases h.security with hs | hs
    · exact absurd (hname.symm.trans hs.1) (by decide)
    · exact hs.2
  · rename_i hnothttp hnothttps
    refine ⟨fun h => absurd h.2 (List.cons_ne_nil _ _), fun h => ?_⟩
    rcases h.security with hs | hs
    · exact (hnothttp (hhttp.mpr hs.1)).elim
    · exact (hnothttps (hhttps.mpr hs.1)).elim

end ListenerRecord

namespace BackendRecord

/-- What a record in canonical form has to be like: it names a rule of a layer-7 listener, and a
backend with its kind, address, port and weight. -/
structure WellFormed (r : BackendRecord) : Prop where
  balancer : r.balancer ≠ ""
  protocol : r.protocol = "HTTP" ∨ r.protocol = "HTTPS"
  port : ∃ p, r.ports = [p] ∧ PortNumber p
  domain : r.domain ≠ ""
  path : r.path ≠ ""
  kind : r.kind = "CVM" ∨ r.kind = "ENI"
  ip : r.ip ≠ ""
  backendPort : ∃ p, r.backendPorts = [p] ∧ PortNumber p
  weight : ∃ w, r.weight = some w ∧ 0 ≤ w ∧ w ≤ 100

theorem protocol?_canonical (r : BackendRecord) (p : Protocol) :
    r.canonical.protocol? = some p ↔ r.canonical.protocol = Named.name p := by
  simp only [protocol?, canonical, Protocol.ofText?_eq_some, Named.raised_raised]

theorem kind?_canonical (r : BackendRecord) (k : BackendKind) :
    r.canonical.kind? = some k ↔ r.canonical.kind = Named.name k := by
  simp only [kind?, canonical, BackendKind.ofText?_eq_some, Named.raised_raised]

theorem isLayer7_iff (r : BackendRecord) :
    (r.canonical.protocol?.map Protocol.isLayer7).getD false = true ↔
      r.canonical.protocol = "HTTP" ∨ r.canonical.protocol = "HTTPS" := by
  have hhttp := protocol?_canonical r .http
  have hhttps := protocol?_canonical r .https
  constructor
  · cases hp : r.canonical.protocol? with
    | none => exact fun h => nomatch h
    | some p =>
      cases p with
      | tcp | udp => exact fun h => nomatch h
      | http => exact fun _ => .inl (hhttp.mp hp)
      | https => exact fun _ => .inr (hhttps.mp hp)
  · rintro (h | h)
    · rw [hhttp.mpr h]
      rfl
    · rw [hhttps.mpr h]
      rfl

theorem isNone_kind?_iff (r : BackendRecord) :
    r.canonical.kind?.isNone = false ↔ r.canonical.kind = "CVM" ∨ r.canonical.kind = "ENI" := by
  have hcvm := kind?_canonical r .cvm
  have heni := kind?_canonical r .eni
  constructor
  · cases hk : r.canonical.kind? with
    | none => exact fun h => nomatch h
    | some k =>
      cases k with
      | cvm => exact fun _ => .inl (hcvm.mp hk)
      | eni => exact fun _ => .inr (heni.mp hk)
  · rintro (h | h)
    · rw [hcvm.mpr h]
      rfl
    · rw [heni.mpr h]
      rfl

theorem weightViolations_eq_nil {weight : Option Int} :
    weightViolations weight = [] ↔ ∃ w, weight = some w ∧ 0 ≤ w ∧ w ≤ 100 := by
  cases weight with
  | none => simp [weightViolations]
  | some w => simp [weightViolations]

/-- **A record gets nothing wrong if and only if it is well formed.** -/
theorem violations_eq_nil (r : BackendRecord) :
    violations r.canonical = [] ↔ r.canonical.WellFormed := by
  have hempty : ∀ s fault : String, (if s.isEmpty then [fault] else []) = [] ↔ s ≠ "" := by simp
  have hlayer := isLayer7_iff r
  have hkind := isNone_kind?_iff r
  generalize r.canonical = c at hlayer hkind
  have hprotocol : ∀ fault : String,
      (if (c.protocol?.map Protocol.isLayer7).getD false then [] else [fault]) = [] ↔
        c.protocol = "HTTP" ∨ c.protocol = "HTTPS" := by
    intro fault
    rw [← hlayer]
    cases (c.protocol?.map Protocol.isLayer7).getD false <;> simp
  have hknown : ∀ fault : String, (if c.kind?.isNone then [fault] else []) = [] ↔
      c.kind = "CVM" ∨ c.kind = "ENI" := by
    intro fault
    rw [← hkind]
    cases c.kind?.isNone <;> simp
  simp only [violations, List.append_eq_nil_iff, hempty, hprotocol, hknown, portViolations_single,
    weightViolations_eq_nil]
  constructor
  · rintro ⟨⟨⟨⟨⟨⟨⟨⟨hb, hp⟩, hport⟩, hd⟩, hpath⟩, hk⟩, hip⟩, hbp⟩, hw⟩
    exact ⟨hb, hp, hport, hd, hpath, hk, hip, hbp, hw⟩
  · rintro ⟨hb, hp, hport, hd, hpath, hk, hip, hbp, hw⟩
    exact ⟨⟨⟨⟨⟨⟨⟨⟨hb, hp⟩, hport⟩, hd⟩, hpath⟩, hk⟩, hip⟩, hbp⟩, hw⟩

end BackendRecord

/-- A kind of record of which it is known when nothing is wrong with it by itself. -/
class Ruled (R : Type) [Importable R] where
  /-- What a record in canonical form has to be like. -/
  WellFormed : R → Prop
  violations_eq_nil (r : R) : Importable.violations (Importable.canonical r) = [] ↔
    WellFormed (Importable.canonical r)

instance : Ruled ListenerRecord where
  WellFormed := ListenerRecord.WellFormed
  violations_eq_nil := ListenerRecord.violations_eq_nil

instance : Ruled BackendRecord where
  WellFormed := BackendRecord.WellFormed
  violations_eq_nil := BackendRecord.violations_eq_nil

end BalancerImport
