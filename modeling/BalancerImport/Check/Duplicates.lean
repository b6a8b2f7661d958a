import BalancerImport.Record.Importable

/-!
# Duplicates in a batch

Records of a batch that share their key rule each other out, and each names the line of the other.

* `markPair`: what two such records are told;
* `markDuplicates`: one pass over a batch, which compares each record with those before it.
-/

namespace BalancerImport

variable {R : Type} [Importable R]

/-- What a record is told about a duplicate at an index. Lines count from one. -/
def duplicateMessage (index : Nat) : String := s!"duplicado con la línea {index + 1}"

/-- Two records that share their key are told of each other. -/
def markPair (earlier later : Nat) (rs : List R) : List R :=
  (rs.modify earlier (Importable.reject (duplicateMessage later))).modify later
    (Importable.reject (duplicateMessage earlier))

/-- The indices at which a key was seen. -/
def seenAt (key : String) (seen : List (String × Nat)) : List Nat :=
  seen.filterMap fun entry => if entry.1 = key then some entry.2 else none

/-- Marks the duplicates among the records from an index on, and between them and the earlier
records; `seen` holds the keys of those. -/
def markFrom : Nat → List String → List (String × Nat) → List R → List R
  | _, [], _, rs => rs
  | index, key :: keys, seen, rs =>
    markFrom (index + 1) keys (seen ++ [(key, index)])
      ((seenAt key seen).foldl (fun rs earlier => markPair earlier index rs) rs)

/-- A batch with its duplicates ruled out. -/
def markDuplicates (rs : List R) : List R := markFrom 0 (rs.map Importable.dedupKey) [] rs

end BalancerImport
