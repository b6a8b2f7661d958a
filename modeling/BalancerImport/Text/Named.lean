import BalancerImport.Text.Blank
import BalancerImport.Text.Case

/-!
# Kinds with a name

Finite kinds whose members are written as fixed words.

* `Named`: the members of a kind and their words;
* `Named.find?`: the member with a word; `Named.table`: words and members.
-/

namespace BalancerImport

/-- A finite kind whose members are written as words. -/
class Named (α : Type) where
  /-- Every member. -/
  members : List α
  /-- The word of a member. -/
  name : α → String

namespace Named

variable {α : Type} [Named α]

/-- The words and members of a kind. -/
def table : List (String × α) := members.map fun a => (name a, a)

/-- The member with a word. -/
def find? (word : String) : Option α := table.lookup word

/-- A text as lower-case kinds are looked up: trimmed, then in lower case. -/
def lowered (s : String) : String := Text.lower (Text.trim s)

/-- A text as upper-case kinds are looked up: trimmed, then in upper case. -/
def raised (s : String) : String := Text.upper (Text.trim s)

end Named

end BalancerImport
