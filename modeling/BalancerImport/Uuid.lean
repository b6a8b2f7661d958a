import BalancerImport.Text.Quoted
import BalancerImport.Json.Parser

/-!
# Identifiers

Universally unique identifiers: numbers below `2 ^ 128`, written with 32 hexadecimal digits in five
groups.

* `Uuid.text`: the canonical text;
* `Uuid.parse?`: the four accepted notations (canonical, without hyphens, in braces, as a URN);
* `IdFamily`, `Uuid.drawn`: fresh identifiers. Each kind of thing draws from a family of its own, so
  no two things ever share one.
-/

namespace BalancerImport

/-- An identifier. -/
structure Uuid where
  value : Nat
  deriving DecidableEq, Repr, Inhabited, Hashable, Ord

namespace Uuid

/-! ## Text -/

/-- The 32 hexadecimal digits of an identifier. -/
def digits (u : Uuid) : List Char :=
  let ds := Text.hexDigits u.value
  List.replicate (32 - ds.length) '0' ++ ds

/-- The canonical text: groups of 8, 4, 4, 4 and 12 digits. -/
def text (u : Uuid) : String :=
  let ds := u.digits
  String.ofList (ds.take 8 ++ ['-'] ++ (ds.drop 8).take 4 ++ ['-'] ++ (ds.drop 12).take 4 ++
    ['-'] ++ (ds.drop 16).take 4 ++ ['-'] ++ ds.drop 20)

instance : ToString Uuid := ⟨text⟩

/-- The number that hexadecimal digits spell. -/
def ofDigits? (cs : List Char) : Option Uuid :=
  (cs.mapM Json.hexValue?).map fun ds => ⟨ds.foldl (fun n d => n * 16 + d) 0⟩

/-- Reads 32 digits without hyphens. -/
def parseSimple? (cs : List Char) : Option Uuid :=
  if cs.length = 32 then ofDigits? cs else none

/-- Reads five groups of digits. -/
def parseGrouped? (cs : List Char) : Option Uuid :=
  let groups := cs.splitOn '-'
  if groups.map List.length = [8, 4, 4, 4, 12] then ofDigits? groups.flatten else none

/-- Reads an identifier in any of its notations. -/
def parse? (s : String) : Option Uuid :=
  let cs := s.toList
  if cs.length = 32 then parseSimple? cs
  else if cs.length = 38 && cs.head? == some '\x7b' && cs.getLast? == some '\x7d' then
    parseGrouped? (cs.drop 1).dropLast
  else if (cs.take 9).map Char.toLower = "urn:uuid:".toList then
    let cs := cs.drop 9
    if cs.length = 36 then parseGrouped? cs else none
  else parseGrouped? cs

end Uuid

/-! ## Fresh identifiers -/

/-- The kinds of things that get identifiers of their own. -/
inductive IdFamily where
  | job
  | item
  | flow
  | watch
  deriving DecidableEq, Repr

/-- The place of a family among the others. -/
def IdFamily.index : IdFamily → Nat
  | .job => 0
  | .item => 1
  | .flow => 2
  | .watch => 3

/-- The `n`-th identifier of a family, counted from a seed. -/
def Uuid.drawn (seed : Nat) (family : IdFamily) (n : Nat) : Uuid := ⟨seed + 4 * n + family.index⟩

/-- A seed from a random number: a random identifier of the usual version, with room for the numbers
that are added to it. -/
def Uuid.seedOf (random : Nat) : Nat :=
  random / Nat.pow 2 80 % Nat.pow 2 48 * Nat.pow 2 80 + 4 * Nat.pow 2 76 +
    random / Nat.pow 2 64 % Nat.pow 2 12 * Nat.pow 2 64 + Nat.pow 2 63 +
    random / Nat.pow 2 48 % Nat.pow 2 14 * Nat.pow 2 48

/-- The seed of a session that brings none. -/
def Uuid.defaultSeed : Nat := 0xb7e15162_8aed_4a6a_bf71_580000000000

/-- Distinct draws give distinct identifiers. -/
theorem Uuid.drawn_inj {seed m n : Nat} {a b : IdFamily} :
    Uuid.drawn seed a m = Uuid.drawn seed b n ↔ a = b ∧ m = n := by
  constructor
  · intro h
    have h : seed + 4 * m + a.index = seed + 4 * n + b.index := congrArg Uuid.value h
    cases a <;> cases b <;> simp [IdFamily.index] at h ⊢ <;> omega
  · rintro ⟨rfl, rfl⟩
    rfl

end BalancerImport
