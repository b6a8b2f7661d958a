import BalancerImport.Uuid

/-!
# Fresh draws

Identifiers that are still to be drawn, seen from a list of identifiers that are in use.

* `Uuid.DrawsFresh`: draws from some number on are not among the identifiers;
* `mono`, `append`, `of_drawn`: what keeps draws fresh.
-/

namespace BalancerImport

/-- The draws of a family from the `n`-th on are not among the identifiers. -/
def Uuid.DrawsFresh (seed : Nat) (family : IdFamily) (n : Nat) (ids : List Uuid) : Prop :=
  ∀ k, n ≤ k → Uuid.drawn seed family k ∉ ids

namespace Uuid.DrawsFresh

variable {seed n m : Nat} {family : IdFamily} {ids more : List Uuid}

theorem nil : DrawsFresh seed family n [] := fun _ _ => List.not_mem_nil

theorem mono (h : DrawsFresh seed family n ids) (hle : n ≤ m) : DrawsFresh seed family m ids :=
  fun k hk => h k (Nat.le_trans hle hk)

theorem append (h : DrawsFresh seed family n ids) (h' : DrawsFresh seed family n more) :
    DrawsFresh seed family n (ids ++ more) := fun k hk hm =>
  (List.mem_append.mp hm).elim (h k hk) (h' k hk)

/-- Earlier draws do not meet later ones, and draws of another family never do. -/
theorem of_drawn (h : ∀ id ∈ ids, ∃ other k, id = Uuid.drawn seed other k ∧
    (other = family → k < n)) : DrawsFresh seed family n ids := by
  intro k hk hm
  obtain ⟨other, j, hj, hlt⟩ := h _ hm
  obtain ⟨rfl, rfl⟩ := Uuid.drawn_inj.mp hj
  have := hlt rfl
  omega

end Uuid.DrawsFresh

end BalancerImport
