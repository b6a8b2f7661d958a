import BalancerImport.Json.Double
import BalancerImport.Text.Quoted

/-!
# Writing JSON documents

The compact text of a value: no gaps, members in the order in which the value holds them.

* `Json.quote`: a text between quotes;
* `Json.render`: a value.
-/

namespace BalancerImport.Json

/-- Four hexadecimal digits of a control character. -/
def unitDigits (n : Nat) : List Char :=
  let digits := Text.hexDigits n
  List.replicate (4 - digits.length) '0' ++ digits

/-- Characters that stand in a text as a backslash and another character. -/
def shortEscapes : List (Char × Char) :=
  [('"', '"'), ('\\', '\\'), ('\x08', 'b'), ('\x0c', 'f'), ('\n', 'n'), ('\r', 'r'), ('\t', 't')]

/-- A character as it stands in a text. -/
def escape (c : Char) : List Char :=
  match shortEscapes.lookup c with
  | some short => ['\\', short]
  | none => if c.toNat < 0x20 then ['\\', 'u'] ++ unitDigits c.toNat else [c]

/-- A text between quotes. -/
def quote (s : String) : String := String.ofList (['"'] ++ s.toList.flatMap escape ++ ['"'])

/-- The text of a number. -/
def Number.render : Number → String
  | .int n => toString n
  | .double bits => Double.literal bits

mutual

/-- The compact text of a value. -/
def render : Json → String
  | .null => "null"
  | .bool true => "true"
  | .bool false => "false"
  | .num n => n.render
  | .str s => quote s
  | .arr items => "[" ++ String.intercalate "," (renderItems [] items) ++ "]"
  | .obj members => "\x7b" ++ String.intercalate "," (renderMembers [] members) ++ "\x7d"

/-- The texts of items, after those of earlier ones in reverse. -/
def renderItems (seen : List String) : List Json → List String
  | [] => seen.reverse
  | j :: js => renderItems (render j :: seen) js

/-- The texts of members, after those of earlier ones in reverse. -/
def renderMembers (seen : List String) : List (String × Json) → List String
  | [] => seen.reverse
  | (key, j) :: ms => renderMembers ((quote key ++ ":" ++ render j) :: seen) ms

end

end BalancerImport.Json
