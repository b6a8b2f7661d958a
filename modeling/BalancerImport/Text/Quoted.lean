import BalancerImport.Text.InvisibleTable
import BalancerImport.Text.Case

/-!
# Quoted and bracketed texts

How values are shown inside messages: texts in double quotes with what is invisible escaped, lists
in square brackets with a comma and a space between their members.

* `hexDigits`: hexadecimal digits, lower case, without leading zeros;
* `quoted`: a text in double quotes;
* `bracketed`: a list of texts in brackets.
-/

namespace BalancerImport.Text

/-- The hexadecimal digits of a number. -/
def hexDigits (n : Nat) : List Char := Nat.toDigits 16 n

/-- A character as it stands between double quotes. -/
def escapeChar (c : Char) : List Char :=
  if c == '"' then ['\\', '"']
  else if c == '\\' then ['\\', '\\']
  else if c == '\n' then ['\\', 'n']
  else if c == '\r' then ['\\', 'r']
  else if c == '\t' then ['\\', 't']
  else if c.toNat == 0 then ['\\', '0']
  else if inRanges invisibleRanges c.toNat then
    ['\\', 'u', Char.ofNat 0x7B] ++ hexDigits c.toNat ++ [Char.ofNat 0x7D]
  else [c]

/-- A text in double quotes. -/
def quoted (s : String) : String :=
  String.ofList (['"'] ++ s.toList.flatMap escapeChar ++ ['"'])

/-- Texts in square brackets. -/
def bracketed (items : List String) : String := "[" ++ String.intercalate ", " items ++ "]"

/-- Numbers in square brackets. -/
def bracketedNumbers (ns : List Nat) : String := bracketed (ns.map fun n => toString n)

end BalancerImport.Text
