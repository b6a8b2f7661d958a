import BalancerImport.Record.Cell
import BalancerImport.Proofs.Lists
import BalancerImport.Proofs.Text.Numerals

/-!
# Numbers in cells

The numbers that are read from cells fit the words in which they are kept.

* `unsigned?_le`, `signed?_fits`: numerals;
* **`parsePorts_le`**, **`parseWeight_fits`**: cells.
-/

namespace BalancerImport

/-- An integer is a signed number of 64 bits. -/
def FitsInt64 (n : Int) : Prop := -(Text.maxInt64 : Int) - 1 ≤ n ∧ n ≤ Text.maxInt64

namespace Text

theorem readMagnitude_le {limit : Nat} {beyond : NumeralFault} {cs : List Char} {n : Nat}
    (h : readMagnitude limit beyond cs = .ok n) : n ≤ limit :=
  (readMagnitude_eq_ok.mp h).2.2.2

theorem unsigned?_le {limit : Nat} {s : String} {n : Nat} (h : unsigned? limit s = some n) :
    n ≤ limit :=
  (unsigned?_eq_some.mp h).1

theorem signed?_fits {s : String} {n : Int} (h : signed? maxInt64 s = some n) : FitsInt64 n := by
  have hpos : ∀ {cs : List Char} {m : Int},
      (readMagnitude maxInt64 .tooLarge cs).map Int.ofNat = .ok m → FitsInt64 m := by
    intro cs m hm
    obtain ⟨k, hk, rfl⟩ := map_ok hm
    have hle := readMagnitude_le hk
    constructor <;> simp only [Int.ofNat_eq_natCast] <;> omega
  unfold signed? at h
  cases hr : readSigned maxInt64 s with
  | error e => rw [hr] at h; exact nomatch h
  | ok k =>
    rw [hr] at h
    obtain rfl := Option.some.inj h
    unfold readSigned at hr
    split at hr
    · exact nomatch hr
    · exact hpos hr
    · obtain ⟨k, hk, rfl⟩ := map_ok hr
      have hle := readMagnitude_le hk
      constructor <;> simp only [Int.ofNat_eq_natCast] <;> omega
    · exact hpos hr

end Text

namespace Cell

open Text

theorem parsePort_le {s : String} {p : Nat} (h : parsePort s = .ok p) : p ≤ maxWord32 := by
  unfold parsePort at h
  split at h
  · rename_i n hn
    obtain rfl := Except.ok.inj h
    exact unsigned?_le hn
  · exact nomatch h

theorem parsePortList_le : ∀ {ss : List String} {ports : List Nat}, parsePortList ss = .ok ports →
    ∀ p ∈ ports, p ≤ maxWord32
  | [], _, h => by
    obtain rfl := Except.ok.inj h
    simp
  | s :: ss, ports, h => by
    unfold parsePortList at h
    split at h
    · exact nomatch h
    · rename_i n hn
      obtain ⟨rest, hrest, rfl⟩ := map_ok h
      exact List.forall_mem_cons.mpr ⟨parsePort_le hn, parsePortList_le hrest⟩

/-- Ports between bounds that fit the port numbers of the network fit a word as well. -/
theorem expandBounds_le {bounds ports : List Nat} (h : expandBounds bounds = some ports)
    (hbounds : ∀ p ∈ bounds, p ≤ maxWord32) : ∀ p ∈ ports, p ≤ maxWord32 := by
  unfold expandBounds at h
  split at h
  · rename_i first last
    split at h
    · rename_i hrange
      obtain rfl := Option.some.inj h
      intro p hp
      have hmem := List.mem_range'_1.mp hp
      have hmax : 65535 ≤ maxWord32 := by decide
      omega
    · obtain rfl := Option.some.inj h
      exact hbounds
  · exact nomatch h
  · obtain rfl := Option.some.inj h
    exact hbounds

/-- **Ports that are read from a cell fit a word of 32 bits.** -/
theorem parsePorts_le {s : String} {ports : List Nat} (h : parsePorts s = .ok ports) :
    ∀ p ∈ ports, p ≤ maxWord32 := by
  unfold parsePorts at h
  split at h
  · obtain rfl := Except.ok.inj h
    simp
  · split at h
    · obtain ⟨p, hp, rfl⟩ := map_ok h
      simpa using parsePort_le hp
    · split at h
      · exact nomatch h
      · rename_i bounds hbounds
        split at h
        · rename_i expanded hexpanded
          obtain rfl := Except.ok.inj h
          exact expandBounds_le hexpanded (parsePortList_le hbounds)
        · exact nomatch h

/-- **A weight that is read from a cell fits a signed word of 64 bits.** -/
theorem parseWeight_fits {s : String} {weight : Option Int} (h : parseWeight s = .ok weight) :
    ∀ w ∈ weight, FitsInt64 w := by
  unfold parseWeight at h
  split at h
  · obtain rfl := Except.ok.inj h
    simp
  · split at h
    · rename_i n hn
      obtain rfl := Except.ok.inj h
      simpa using signed?_fits hn
    · exact nomatch h

end Cell

end BalancerImport
