import BalancerImport.Ledger.Real
import BalancerImport.Json.Basic
import BalancerImport.Text.Numeral

/-!
# Values of database columns

A column prefers a kind of value: a column of texts turns numbers into texts, a column of integers
turns numerals into numbers, and what cannot be turned stays as it is. So a column of integers may
hold a real or a text, which is ordered among the integers and counts for one when it is read.

* `SqlValue`: values other than null; `SqlValue.ofJson`: the value of a JSON value;
* `SqlValue.asText`, `SqlValue.asNumeric`: the value that a column of texts or integers keeps;
* `SqlValue.toInt`: the integer that a value is read as;
* `SqlValue.le`: the order of values;
* `putColumn?`: rows with a value put into a column of some of them.
-/

namespace BalancerImport

/-- A value of a column, other than null. -/
inductive SqlValue where
  | integer (value : Int)
  /-- A real, given by the bits of a double. -/
  | real (bits : UInt64)
  | text (value : String)
  deriving DecidableEq, Repr

/-- The nearest signed integer of 64 bits. -/
def nearestInt64 (n : Int) : Int := max (-(Text.maxInt64 : Int) - 1) (min n Text.maxInt64)

namespace SqlValue

/-- The value of an integer, a real if it is too large. -/
def ofInt (n : Int) : SqlValue :=
  if nearestInt64 n = n then .integer n
  else .real (Double.signed (n < 0) (Double.nearest n.natAbs 0))

/-- The value of a JSON value; none is null. -/
def ofJson : Json → Option SqlValue
  | .bool b => some (.integer (if b then 1 else 0))
  | .num (.int n) => some (ofInt n)
  | .num (.double bits) => some (.real bits)
  | .str s => some (.text s)
  | _ => none

/-! ## Columns of texts -/

/-- The text that a column of texts keeps. -/
def asText : SqlValue → String
  | integer n => toString n
  | real bits => Double.storedText bits
  | text s => s

/-! ## Columns of integers -/

/-- White space around numerals. -/
def isSpace (c : Char) : Bool := c == ' ' || (9 ≤ c.toNat && c.toNat ≤ 13)

/-- Whether a character is a digit. -/
def isDigit (c : Char) : Bool := (Text.digitValue? c).isSome

/-- Whether a minus sign is at the front, and what follows the sign, if there is one. -/
def splitSign : List Char → Bool × List Char
  | '-' :: cs => (true, cs)
  | '+' :: cs => (false, cs)
  | cs => (false, cs)

/-- The number of a run of digits. -/
def digitsValue (ds : List Char) : Nat := Nat.ofDigitChars 10 ds 0

/-- The significand from which on no digit is taken: ten times it may need more than 64 bits. -/
def fullSignificand : Nat := 1844674407370955160

/-- A significand and its power of ten after one more digit, which is `whole` or of a fraction. -/
def takeDigit (whole : Bool) (acc : Nat × Int) (d : Char) : Nat × Int :=
  if acc.1 < fullSignificand then
    (acc.1 * 10 + digitsValue [d], if whole then acc.2 else acc.2 - 1)
  else (acc.1, if whole then acc.2 + 1 else acc.2)

/-- The size of an exponent after one more digit. Where five digits are not enough it is 10000. -/
def takeExponentDigit (size : Nat) (d : Char) : Nat :=
  if size < 10000 then size * 10 + digitsValue [d] else 10000

/-- The exponent at the end of a numeral: zero if nothing is written. -/
def readExponent? : List Char → Option Int
  | [] => some 0
  | c :: cs =>
    let (negative, ds) := splitSign cs
    if (c == 'e' || c == 'E') && !ds.isEmpty && ds.all isDigit then
      let size := ds.foldl takeExponentDigit 0
      some (if negative then -(size : Int) else size)
    else none

/-- The real of a numeral, given by the digits before and after its point and by its exponent. -/
def realOfDigits (negative : Bool) (whole part : List Char) (exponent : Int) : SqlValue :=
  let (significand, place) := part.foldl (takeDigit false) (whole.foldl (takeDigit true) (0, 0))
  .real (Double.signed negative (Double.nearest significand (place + exponent)))

/-- The number that a numeral is: an integer if it has neither point nor exponent and fits, else a
real. -/
def numeral? (cs : List Char) : Option SqlValue :=
  let (negative, cs) := splitSign cs
  let whole := cs.takeWhile isDigit
  let rest := cs.dropWhile isDigit
  let n : Int := if negative then -(digitsValue whole : Int) else digitsValue whole
  let tail := if rest.head? == some '.' then rest.tail else rest
  let part := if rest.head? == some '.' then tail.takeWhile isDigit else []
  if whole.isEmpty && part.isEmpty then none
  else if rest.isEmpty && nearestInt64 n = n then some (.integer n)
  else
    (readExponent? (tail.drop part.length)).map fun exponent =>
      realOfDigits negative whole part exponent

/-- A real as an integer, where it is one and lies strictly between the extreme integers. -/
def settleReal (bits : UInt64) : SqlValue :=
  match Double.integer? bits with
  | some n => if n.natAbs < Text.maxInt64 then .integer n else .real bits
  | none => .real bits

/-- What a numeral in a text is read from: the characters before a NUL, without the white space
around them. -/
def numeralText (s : String) : List Char :=
  let cs := (s.toList.takeWhile fun c => c.toNat != 0).dropWhile isSpace
  (cs.reverse.dropWhile isSpace).reverse

/-- The value that a column of integers keeps. -/
def asNumeric : SqlValue → SqlValue
  | integer n => integer n
  | real bits => settleReal bits
  | text s =>
    match numeral? (numeralText s) with
    | some (real bits) => settleReal bits
    | some v => v
    | none => text s

/-- The integer that a value is read as. A real loses its fraction, a text counts for the digits at
its front, and what does not fit counts for the nearest integer that does. -/
def toInt : SqlValue → Int
  | integer n => n
  | real bits => nearestInt64 (Double.truncated bits)
  | text s =>
    let (negative, cs) := splitSign (s.toList.dropWhile isSpace)
    let size := digitsValue (cs.takeWhile isDigit)
    nearestInt64 (if negative then -(size : Int) else size)

/-! ## Order -/

/-- The number that a value is, in units that doubles and integers share. -/
def number? : SqlValue → Option Int
  | integer n => some (Double.scaledInt n)
  | real bits => some (Double.scaled bits)
  | text _ => none

/-- Whether a value stands before another or beside it: numbers by size, then texts by their
characters. -/
def le (a b : SqlValue) : Bool :=
  match a.number?, b.number? with
  | some x, some y => x ≤ y
  | some _, none => true
  | none, some _ => false
  | none, none => !(b.asText < a.asText)

/-- Whether a value stands before another. -/
def lt (a b : SqlValue) : Bool := !b.le a

end SqlValue

/-! ## Rows -/

/-- Rows with a value put into some of them, and how many those are, if all take it and no two rows
get the same key. -/
def putColumn? {Row Key : Type} [BEq Key] (key : Row → Key) (chosen : Row → Bool)
    (put? : Row → Option Row) (rows : List Row) : Option (Nat × List Row) := do
  let changed ← rows.mapM fun row => if chosen row then put? row else some row
  if (changed.map key).eraseDups.length = rows.length then some (rows.countP chosen, changed)
  else none

end BalancerImport
