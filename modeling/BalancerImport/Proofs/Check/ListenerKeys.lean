import BalancerImport.Record.Listener
import BalancerImport.Proofs.Text.Joined

/-!
# Keys of listeners

The key of a listener joins a balancer, a protocol and a list of ports by hyphens. A balancer may
have hyphens and brackets itself, and no list of ports has a hyphen: a key is read from its end. So
it tells its parts as soon as the protocol has no hyphen either.

* `ListenerRecord.SameListener`: records that ask for the same ports of a balancer;
* `ListenerRecord.sameListener_of_dedupKey`: a key is taken apart;
* **`ListenerRecord.dedupKey_eq_iff`**: the keys of layer-7 listeners.
-/

namespace BalancerImport.ListenerRecord

/-- Two records ask for the same ports of a balancer with the same protocol. -/
structure SameListener (r s : ListenerRecord) : Prop where
  balancer : r.balancer = s.balancer
  protocol : r.protocol = s.protocol
  ports : r.ports = s.ports

variable {r s : ListenerRecord}

theorem SameListener.dedupKey (h : SameListener r s) : r.dedupKey = s.dedupKey := by
  simp only [ListenerRecord.dedupKey, h.balancer, h.protocol, h.ports]

theorem toList_dedupKey (r : ListenerRecord) : r.dedupKey.toList =
    (r.balancer.toList ++ '-' :: r.protocol.toList) ++
      '-' :: (Text.bracketedNumbers r.ports).toList := by
  simp only [dedupKey, String.toList_append, List.append_assoc]
  rfl

/-- **A key tells its parts**, if there is no hyphen in a protocol. -/
theorem sameListener_of_dedupKey (hr : '-' ∉ r.protocol.toList) (hs : '-' ∉ s.protocol.toList)
    (hkey : r.dedupKey = s.dedupKey) : SameListener r s := by
  have hparts := congrArg String.toList hkey
  rw [toList_dedupKey, toList_dedupKey] at hparts
  -- from the right: the ports, then the protocol, and the rest is the balancer
  obtain ⟨hfront, hports⟩ := append_cons_inj_of_not_mem
    (Text.hyphen_not_mem_bracketedNumbers _) (Text.hyphen_not_mem_bracketedNumbers _) hparts
  obtain ⟨hbalancer, hprotocol⟩ := append_cons_inj_of_not_mem hr hs hfront
  rw [String.toList_inj] at hports hbalancer hprotocol
  exact ⟨hbalancer, hprotocol, Text.bracketedNumbers_inj hports⟩

theorem hyphen_not_mem_protocol (h : r.protocol = "HTTP" ∨ r.protocol = "HTTPS") :
    '-' ∉ r.protocol.toList := by
  rcases h with h | h <;> rw [h] <;> decide

/-- **Keys of layer-7 listeners are the same if and only if balancer, protocol and ports are**,
whatever characters the balancer has. -/
theorem dedupKey_eq_iff (hr : r.protocol = "HTTP" ∨ r.protocol = "HTTPS")
    (hs : s.protocol = "HTTP" ∨ s.protocol = "HTTPS") : r.dedupKey = s.dedupKey ↔
      r.balancer = s.balancer ∧ r.protocol = s.protocol ∧ r.ports = s.ports := by
  constructor
  · intro hkey
    have hsame := sameListener_of_dedupKey (hyphen_not_mem_protocol hr) (hyphen_not_mem_protocol hs)
      hkey
    exact ⟨hsame.balancer, hsame.protocol, hsame.ports⟩
  · rintro ⟨hbalancer, hprotocol, hports⟩
    exact SameListener.dedupKey ⟨hbalancer, hprotocol, hports⟩

/-- A listener on a balancer. -/
def keyedRecord (balancer protocol : String) (ports : List Nat) : ListenerRecord :=
  { blank with balancer := balancer, protocol := protocol, ports := ports }

/-- A balancer whose id looks like the key of another one. -/
theorem dedupKey_eq_iff_hyphens :
    (keyedRecord "lb-HTTP-[80]" "HTTP" [80]).dedupKey ≠ (keyedRecord "lb" "HTTP" [80]).dedupKey := by
  intro hkey
  have hparts := (dedupKey_eq_iff (.inl rfl) (.inl rfl)).mp hkey
  exact absurd hparts.1 (by decide)

-- With a hyphen in a protocol, two balancers may have the same key.
example : (keyedRecord "lb" "X-HTTP" [80]).dedupKey = (keyedRecord "lb-X" "HTTP" [80]).dedupKey := by
  decide

end BalancerImport.ListenerRecord
