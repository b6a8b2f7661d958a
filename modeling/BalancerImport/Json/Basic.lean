/-!
# JSON values

A value as a document holds it. Objects keep their members in the order and number in which they
were written; where a key is repeated, the last member counts.

* `Json.Number`: an integer of 64 bits, signed or not, or a double given by its bits;
* `Json`: values;
* `Json.member?`: the value of a key; `Json.repeats`: whether a key is written twice.
-/

namespace BalancerImport

/-- A number of a document. -/
inductive Json.Number where
  | int (value : Int)
  | double (bits : UInt64)
  deriving DecidableEq, Repr, Inhabited

/-- A JSON value. -/
inductive Json where
  | null
  | bool (value : Bool)
  | num (value : Json.Number)
  | str (value : String)
  | arr (items : List Json)
  | obj (members : List (String × Json))
  deriving Repr, Inhabited

namespace Json

/-- The number of an integer. -/
def int (n : Int) : Json := .num (.int n)

/-- The number of a natural number. -/
def nat (n : Nat) : Json := .num (.int n)

/-- An array of texts. -/
def strs (ss : List String) : Json := .arr (ss.map .str)

/-- A text, or null. -/
def optStr (s : Option String) : Json := (s.map Json.str).getD .null

/-- The value of a key among members. -/
def lookupLast (key : String) (members : List (String × Json)) : Option Json :=
  members.reverse.lookup key

/-- Whether a key occurs more than once among members. -/
def repeats (key : String) (members : List (String × Json)) : Bool :=
  1 < (members.filter fun m => m.1 == key).length

/-- The value of a key of an object. -/
def member? (key : String) : Json → Option Json
  | .obj members => lookupLast key members
  | _ => none

/-- The text that a value is. -/
def str? : Json → Option String
  | .str s => some s
  | _ => none

/-- The items of an array. -/
def arr? : Json → Option (List Json)
  | .arr items => some items
  | _ => none

end Json

end BalancerImport
