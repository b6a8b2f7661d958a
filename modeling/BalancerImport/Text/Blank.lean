/-!
# Blank characters

Which characters count as white space, and a text without the white space around it.

* `isBlank`: the property `White_Space` of Unicode;
* `trimChars`, `trim`: what is left once both ends are stripped.
-/

namespace BalancerImport.Text

/-- The property `White_Space` of Unicode. -/
def isBlank (c : Char) : Bool :=
  let n := c.toNat
  (9 ≤ n && n ≤ 13) || n == 0x20 || n == 0x85 || n == 0xA0 || n == 0x1680 ||
    (0x2000 ≤ n && n ≤ 0x200A) || n == 0x2028 || n == 0x2029 || n == 0x202F || n == 0x205F ||
    n == 0x3000

/-- A list without the elements at its two ends that satisfy `p`. -/
def stripWhile {α : Type} (p : α → Bool) (xs : List α) : List α :=
  ((xs.dropWhile p).reverse.dropWhile p).reverse

/-- Characters without the white space around them. -/
def trimChars (cs : List Char) : List Char := stripWhile isBlank cs

/-- A text without the white space around it. -/
def trim (s : String) : String := String.ofList (trimChars s.toList)

end BalancerImport.Text
