import BalancerImport.Json.Basic
import BalancerImport.Text.Numeral

/-!
# Decoding JSON values

Small decoders from which those of the domain are built. A record is written as an object, whose
unknown members are ignored, or as an array of its members in order, the last of which may be left
out where they have a default.

* `fields?`: the members of a record;
* `field?`, `fieldOr?`: one member, without and with a default;
* `nat?`, `int64?`, `listOf?`, `optional?`, `named?`, `textMap?`: decoders of values.
-/

namespace BalancerImport.Json

variable {α : Type}

/-- The members of a record of the given names, of which an array has to write at least
`required`. A name may not be written twice. -/
def fields? (names : List String) (required : Nat) : Json → Option (List (String × Json))
  | .obj members => if names.any (repeats · members) then none else some members
  | .arr items =>
    if required ≤ items.length && items.length ≤ names.length then some (names.zip items) else none
  | _ => none

/-- The members of a record that is written as an object only. -/
def objectFields? (names : List String) : Json → Option (List (String × Json))
  | .obj members => if names.any (repeats · members) then none else some members
  | _ => none

/-- A member that has to be written. -/
def field? (members : List (String × Json)) (key : String) (decode : Json → Option α) : Option α :=
  (lookupLast key members).bind decode

/-- A member with a default. -/
def fieldOr? (members : List (String × Json)) (key : String) (absent : α)
    (decode : Json → Option α) : Option α :=
  match lookupLast key members with
  | none => some absent
  | some j => decode j

/-- A truth value. -/
def bool? : Json → Option Bool
  | .bool b => some b
  | _ => none

/-- An integer from zero to a limit. -/
def nat? (limit : Nat) : Json → Option Nat
  | .num (.int n) => if 0 ≤ n ∧ n ≤ limit then some n.toNat else none
  | _ => none

/-- A signed integer of 64 bits. -/
def int64? : Json → Option Int
  | .num (.int n) =>
    if -(Text.maxInt64 : Int) - 1 ≤ n ∧ n ≤ Text.maxInt64 then some n else none
  | _ => none

/-- All results, if each is there. -/
def allSome (decode : Json → Option α) : List Json → Option (List α)
  | [] => some []
  | j :: js =>
    match decode j with
    | none => none
    | some a => (allSome decode js).map (a :: ·)

/-- An array of values of one kind. -/
def listOf? (decode : Json → Option α) : Json → Option (List α)
  | .arr items => allSome decode items
  | _ => none

/-- An array of texts. -/
def strs? : Json → Option (List String) := listOf? str?

/-- A value, or null for none. -/
def optional? (decode : Json → Option α) : Json → Option (Option α)
  | .null => some none
  | j => (decode j).map some

/-- One of several named values: its name, or an object that maps its name to null. -/
def named? (table : List (String × α)) : Json → Option α
  | .str s => table.lookup s
  | .obj [(key, .null)] => table.lookup key
  | _ => none

/-- A member that is a text. -/
def textMember? (m : String × Json) : Option (String × String) :=
  (str? m.2).map fun s => (m.1, s)

/-- An object of texts. -/
def textMap? : Json → Option (List (String × String))
  | .obj members => members.mapM textMember?
  | _ => none

end BalancerImport.Json
