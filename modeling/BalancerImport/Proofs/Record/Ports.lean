import BalancerImport.Proofs.Lists
import BalancerImport.Proofs.Record.Rules
import BalancerImport.Proofs.Text.Numerals
import BalancerImport.Proofs.Text.Raised

/-!
# Cells of ports

Which cells are read as ports, and which of those the rules accept. A range that is not one is kept
as it is written, so the rules have to find it.

* `Number`, `entries`, `Bracketed`: what may stand in a cell, said without the reader;
  `unbracket?_eq_some`, `parsePort_eq_ok`, `parsePortList_parts`: what is read of it;
* `parsePorts_blank`, `parsePorts_bare`, `parsePorts_bracketed`: the notations;
  **`parsePorts_eq_error`**: the cells that cannot be read;
* `StandsFor`: the ports that a cell stands for; `expandBounds_portRun`, **`standsFor_iff`**;
* **`parsePorts_portViolations`**: cells and rules together.
-/

namespace BalancerImport

open Text

namespace Cell

variable {s : String} {cs inner part : List Char} {n : Nat} {ports ns : List Nat}

/-! ## Parts of a cell -/

/-- A number of 32 bits as it may stand in a cell. -/
abbrev Number (cs : List Char) (n : Nat) : Prop := Unsigned maxWord32 cs n

/-- What is listed between commas, without the white space around it. Blank entries count for
nothing. -/
def entries (cs : List Char) : List (List Char) :=
  ((cs.splitOn ',').map trimChars).filter fun part => !part.isEmpty

theorem unbracket?_eq_some : unbracket? cs = some inner ↔ cs = '[' :: (inner ++ [']']) := by
  constructor
  · intro h
    unfold unbracket? at h
    split at h
    · rename_i rest
      split at h
      · rename_i hlast
        obtain ⟨before, rfl⟩ := List.getLast?_eq_some_iff.mp (beq_iff_eq.mp hlast)
        rw [List.dropLast_concat] at h
        rw [Option.some.inj h]
      · exact nomatch h
    · exact nomatch h
  · rintro rfl
    simp [unbracket?]

theorem unbracket?_eq_none : unbracket? cs = none ↔ ¬ ∃ inner, cs = '[' :: (inner ++ [']']) := by
  simp only [Option.eq_none_iff_forall_ne_some, ne_eq, unbracket?_eq_some, not_exists]

theorem parsePort_eq_ok : parsePort s = .ok n ↔ Number (trimChars s.toList) n := by
  rw [← String.toList_ofList (l := trimChars s.toList)]
  change _ ↔ Unsigned maxWord32 (trim s).toList n
  rw [← unsigned?_eq_some, parsePort]
  cases unsigned? maxWord32 (trim s) <;> simp

theorem parsePortList_eq_ok : ∀ {ss : List String} {ns : List Nat}, parsePortList ss = .ok ns ↔
    List.Forall₂ (fun s n => parsePort s = .ok n) ss ns
  | [], ns => by
    rw [parsePortList, List.forall₂_nil_left_iff, Except.ok.injEq, eq_comm]
  | s :: ss, ns => by
    rw [parsePortList, List.forall₂_cons_left_iff]
    cases hs : parsePort s with
    | error e => simp
    | ok n =>
      constructor
      · intro h
        obtain ⟨rest, hrest, rfl⟩ := map_ok h
        exact ⟨n, rest, rfl, parsePortList_eq_ok.mp hrest, rfl⟩
      · rintro ⟨_, rest, h, hrest, rfl⟩
        obtain rfl := Except.ok.inj h
        simp only [parsePortList_eq_ok.mpr hrest]
        rfl

/-- What is read between brackets. -/
theorem parsePortList_parts : parsePortList (parts inner) = .ok ns ↔
    List.Forall₂ Number (entries inner) ns := by
  have hparsed : ∀ part n, parsePort (String.ofList part) = .ok n ↔ Number (trimChars part) n := by
    intro part n
    rw [parsePort_eq_ok, String.toList_ofList]
  rw [parsePortList_eq_ok, parts, entries, List.filter_map, List.forall₂_map_left_iff,
    List.forall₂_map_left_iff]
  simp only [hparsed]
  rfl

theorem parsePort_eq_error : (∃ e, parsePort s = .error e) ↔
    ¬ ∃ n, Number (trimChars s.toList) n := by
  simp only [← parsePort_eq_ok]
  cases parsePort s <;> simp

theorem parsePortList_eq_error : (∃ e, parsePortList (parts inner) = .error e) ↔
    ∃ part ∈ entries inner, ¬ ∃ n, Number part n := by
  have hread : (∃ ns, parsePortList (parts inner) = .ok ns) ↔
      ∀ part ∈ entries inner, ∃ n, Number part n := by
    simp only [parsePortList_parts, exists_forall₂_iff]
  have herror : (∃ e, parsePortList (parts inner) = .error e) ↔
      ¬ ∃ ns, parsePortList (parts inner) = .ok ns := by
    cases parsePortList (parts inner) <;> simp
  rw [herror, hread]
  push Not
  rfl

theorem expandBounds_eq_none : ∀ {bounds : List Nat}, expandBounds bounds = none ↔ 2 < bounds.length
  | [] => by simp [expandBounds]
  | [_] => by simp [expandBounds]
  | [first, last] => by
    rw [expandBounds]
    split <;> simp
  | _ :: _ :: _ :: _ => by simp [expandBounds]

/-! ## Notations -/

/-- A text without the white space around it is what a list of entries between brackets is. -/
def Bracketed (s : String) (inner : List Char) : Prop :=
  trimChars s.toList = '[' :: (inner ++ [']'])

theorem Bracketed.unique {other : List Char} (h : Bracketed s inner) (h' : Bracketed s other) :
    inner = other :=
  List.append_cancel_right (List.cons.inj (h.symm.trans h')).2

theorem parsePorts_blank (h : trimChars s.toList = []) : parsePorts s = .ok [] := by
  rw [parsePorts, h]

theorem parsePorts_bare (hne : trimChars s.toList ≠ []) (h : ¬ ∃ inner, Bracketed s inner) :
    parsePorts s = (parsePort s).map ([·]) := by
  have htrim : trim (String.ofList (trimChars s.toList)) = trim s := by
    rw [trim, trim, String.toList_ofList, trimChars_trimChars]
  have hport : parsePort (String.ofList (trimChars s.toList)) = parsePort s := by
    rw [parsePort, parsePort, htrim]
  have hnone : unbracket? (trimChars s.toList) = none := unbracket?_eq_none.mpr h
  rw [← hport, parsePorts]
  split
  · exact absurd ‹_› hne
  · rw [hnone]

theorem parsePorts_bracketed (h : Bracketed s inner) : parsePorts s =
    match parsePortList (parts inner) with
    | .error e => .error e
    | .ok bounds =>
      match expandBounds bounds with
      | some ports => .ok ports
      | none => .error (.tooManyBounds (trim s)) := by
  have hsome : unbracket? (trimChars s.toList) = some inner := unbracket?_eq_some.mpr h
  rw [parsePorts]
  split
  · rename_i hnil
    exact nomatch h.symm.trans hnil
  · rw [hsome]
    rfl

/-- What a list between brackets is read as. -/
theorem parsePorts_eq_ok (h : Bracketed s inner) : parsePorts s = .ok ports ↔
    ∃ bounds, List.Forall₂ Number (entries inner) bounds ∧ expandBounds bounds = some ports := by
  rw [parsePorts_bracketed h]
  simp only [← parsePortList_parts]
  cases parsePortList (parts inner) with
  | error e => simp
  | ok bounds =>
    dsimp only
    cases hports : expandBounds bounds <;> simp [hports]

theorem parsePorts_bracketed_error (h : Bracketed s inner) : (∃ e, parsePorts s = .error e) ↔
    (∃ entry ∈ entries inner, ¬ ∃ n, Number entry n) ∨ 2 < (entries inner).length := by
  rw [parsePorts_bracketed h, ← parsePortList_eq_error]
  cases hbounds : parsePortList (parts inner) with
  | error e => simp
  | ok bounds =>
    dsimp only
    rw [(parsePortList_parts.mp hbounds).length_eq, ← expandBounds_eq_none]
    cases expandBounds bounds <;> simp

/-- **Which cells cannot be read.** -/
theorem parsePorts_eq_error : (∃ e, parsePorts s = .error e) ↔ trimChars s.toList ≠ [] ∧
    ((¬ ∃ inner, Bracketed s inner) ∧ (¬ ∃ n, Number (trimChars s.toList) n) ∨
      ∃ inner, Bracketed s inner ∧
        ((∃ entry ∈ entries inner, ¬ ∃ n, Number entry n) ∨ 2 < (entries inner).length)) := by
  by_cases hblank : trimChars s.toList = []
  · simp [parsePorts_blank hblank, hblank]
  rw [and_iff_right hblank]
  by_cases hbracketed : ∃ inner, Bracketed s inner
  · rw [or_iff_right fun h => h.1 hbracketed]
    obtain ⟨inner, hinner⟩ := hbracketed
    rw [parsePorts_bracketed_error hinner]
    exact ⟨fun h => ⟨inner, hinner, h⟩, fun ⟨_, hother, h⟩ => hinner.unique hother ▸ h⟩
  · rw [or_iff_left fun ⟨inner, hinner, _⟩ => hbracketed ⟨inner, hinner⟩, and_iff_right hbracketed,
      ← parsePort_eq_error, parsePorts_bare hblank hbracketed]
    cases parsePort s <;> simp [Except.map]

/-! ## Ports that a cell stands for -/

/-- The ports that a cell stands for. -/
inductive StandsFor (s : String) : List Nat → Prop where
  /-- A port. -/
  | bare {p : Nat} : Number (trimChars s.toList) p → PortNumber p → StandsFor s [p]
  /-- A port between brackets. -/
  | bracketed {inner entry : List Char} {p : Nat} : Bracketed s inner → entries inner = [entry] →
      Number entry p → PortNumber p → StandsFor s [p]
  /-- The first and the last of several ports between brackets. -/
  | range {inner low high : List Char} {a b : Nat} : Bracketed s inner →
      entries inner = [low, high] → Number low a → Number high b → 1 ≤ a → a < b → b ≤ 65535 →
      StandsFor s (List.range' a (b + 1 - a))

theorem ne_nil_of_number (h : Number cs n) : cs ≠ [] := by
  obtain ⟨-, digits, rfl | rfl, hne, -⟩ := h
  · exact hne
  · exact List.cons_ne_nil _ _

theorem not_bracketed_of_number (h : Number (trimChars s.toList) n) : ¬ ∃ inner, Bracketed s inner := by
  rintro ⟨inner, hinner⟩
  obtain ⟨-, digits, hcs | hcs, -, hdigits, -⟩ := h
  · rw [← hcs, hinner] at hdigits
    exact absurd (hdigits '[' List.mem_cons_self) (by decide)
  · exact absurd (List.cons.inj (hinner.symm.trans hcs)).1 (by decide)

/-- What an interval stands for is in order if it is one. Two bounds that are not one stay what they
are, and are not in order. -/
theorem expandBounds_portRun {bounds : List Nat} : expandBounds bounds = some ports ∧ PortRun ports ↔
    (∃ p, bounds = [p] ∧ PortNumber p ∧ ports = [p]) ∨
      ∃ a b, bounds = [a, b] ∧ 1 ≤ a ∧ a < b ∧ b ≤ 65535 ∧ ports = List.range' a (b + 1 - a) := by
  constructor
  · rintro ⟨hbounds, hrun⟩
    match bounds, hbounds with
    | [], hbounds =>
      obtain rfl := Option.some.inj hbounds
      exact absurd rfl (portRun_iff.mp hrun).1
    | [p], hbounds =>
      obtain rfl := Option.some.inj hbounds
      exact .inl ⟨p, rfl, portRun_singleton.mp hrun, rfl⟩
    | [a, b], hbounds =>
      rw [expandBounds] at hbounds
      split at hbounds
      · rename_i hinterval
        obtain ⟨hfirst, hlt, hlast⟩ := hinterval
        have hlength : b + 1 - a = b - a + 1 := by omega
        rw [← Option.some.inj hbounds, ← hlength]
        exact .inr ⟨a, b, rfl, hfirst, hlt, hlast, rfl⟩
      · rename_i hkept
        obtain rfl := Option.some.inj hbounds
        obtain ⟨⟨ha, -⟩, ⟨-, hb⟩, hnext⟩ := portRun_pair.mp hrun
        exact absurd ⟨ha, by omega, hb⟩ hkept
  · rintro (⟨p, rfl, hp, rfl⟩ | ⟨a, b, rfl, hfirst, hlt, hlast, rfl⟩)
    · exact ⟨rfl, portRun_singleton.mpr hp⟩
    · have hlength : b + 1 - a = b - a + 1 := by omega
      rw [expandBounds, if_pos ⟨hfirst, hlt, hlast⟩, hlength]
      exact ⟨rfl, a, b, hfirst, hlt.le, hlast, by rw [hlength]⟩

/-- **The ports that a cell stands for are what is read from it, if they are in order.** -/
theorem standsFor_iff : StandsFor s ports ↔ parsePorts s = .ok ports ∧ PortRun ports := by
  constructor
  · intro h
    cases h with
    | @bare p hnumber hp =>
      have hread : parsePort s = .ok p := parsePort_eq_ok.mpr hnumber
      rw [parsePorts_bare (ne_nil_of_number hnumber) (not_bracketed_of_number hnumber), hread]
      exact ⟨rfl, portRun_singleton.mpr hp⟩
    | @bracketed inner entry p hinner hentries hnumber hp =>
      obtain ⟨hexpanded, hrun⟩ := expandBounds_portRun.mpr (.inl ⟨p, rfl, hp, rfl⟩)
      refine ⟨(parsePorts_eq_ok hinner).mpr ⟨[p], ?_, hexpanded⟩, hrun⟩
      rw [hentries]
      exact .cons hnumber .nil
    | @range inner low high a b hinner hentries hlow hhigh hfirst hlt hlast =>
      obtain ⟨hexpanded, hrun⟩ :=
        expandBounds_portRun.mpr (.inr ⟨a, b, rfl, hfirst, hlt, hlast, rfl⟩)
      refine ⟨(parsePorts_eq_ok hinner).mpr ⟨[a, b], ?_, hexpanded⟩, hrun⟩
      rw [hentries]
      exact .cons hlow (.cons hhigh .nil)
  · rintro ⟨hread, hrun⟩
    by_cases hblank : trimChars s.toList = []
    · rw [parsePorts_blank hblank] at hread
      obtain rfl := Except.ok.inj hread
      exact absurd rfl (portRun_iff.mp hrun).1
    by_cases hbracketed : ∃ inner, Bracketed s inner
    · obtain ⟨inner, hinner⟩ := hbracketed
      obtain ⟨bounds, hentries, hexpanded⟩ := (parsePorts_eq_ok hinner).mp hread
      rcases expandBounds_portRun.mp ⟨hexpanded, hrun⟩ with
        ⟨p, rfl, hp, rfl⟩ | ⟨a, b, rfl, hfirst, hlt, hlast, rfl⟩
      · obtain ⟨entry, _, hnumber, hnil, hentry⟩ := List.forall₂_cons_right_iff.mp hentries
        obtain rfl := List.forall₂_nil_right_iff.mp hnil
        exact .bracketed hinner hentry hnumber hp
      · obtain ⟨low, _, hlow, hrest, hentry⟩ := List.forall₂_cons_right_iff.mp hentries
        obtain ⟨high, _, hhigh, hnil, rfl⟩ := List.forall₂_cons_right_iff.mp hrest
        obtain rfl := List.forall₂_nil_right_iff.mp hnil
        exact .range hinner hentry hlow hhigh hfirst hlt hlast
    · rw [parsePorts_bare hblank hbracketed] at hread
      obtain ⟨p, hp, rfl⟩ := map_ok hread
      exact .bare (parsePort_eq_ok.mp hp) (portRun_singleton.mp hrun)

/-- **Cells that are read, and ports that are accepted.** A cell cannot be read if its entries are
not numbers or are too many. What is read from a cell is accepted if the cell stands for it. A list
is accepted, wherever it is from, if it goes from a port up to a port that is not below it. -/
theorem parsePorts_portViolations (field : String) :
    (∀ s, (∃ e, parsePorts s = .error e) ↔ trimChars s.toList ≠ [] ∧
      ((¬ ∃ inner, Bracketed s inner) ∧ (¬ ∃ n, Number (trimChars s.toList) n) ∨
        ∃ inner, Bracketed s inner ∧
          ((∃ entry ∈ entries inner, ¬ ∃ n, Number entry n) ∨ 2 < (entries inner).length))) ∧
      (∀ s ports, StandsFor s ports ↔
        parsePorts s = .ok ports ∧ portViolations field ports true = []) ∧
      ∀ ports ranges, portViolations field ports ranges = [] ↔
        ∃ a b, 1 ≤ a ∧ a ≤ b ∧ b ≤ 65535 ∧ (ranges = true ∨ a = b) ∧
          ports = List.range' a (b + 1 - a) := by
  refine ⟨fun _ => parsePorts_eq_error, fun s ports => ?_, fun ports ranges => ?_⟩
  · rw [portViolations_ranges, standsFor_iff]
  · exact portViolations_eq_nil_iff

-- Bounds in the wrong order are read and stay what they are. That they are wrong is for the rules.
example : parsePorts "[90, 80]" = .ok [90, 80] ∧
    portViolations "listener_port" [90, 80] true ≠ [] := by
  decide +kernel

end Cell

end BalancerImport
