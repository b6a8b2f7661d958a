import BalancerImport.Json.Double

/-!
# Reals of a database

A database holds reals as doubles, reads them from decimal numerals by rounding once, and writes
them with 17 digits, or with 14 at most where those read back. The 17 digits come from 18 or 19,
which are rounded themselves: a number may be rounded twice. Writing is not exact either, for it
takes a power of ten by its 64 leading bits only.

* `Double.nearest`: the double nearest to a decimal number;
* `Double.leadingTen`: the leading bits of a power of ten;
* `Double.storedText`: the text of a double;
* `Double.scaled`: a double as a whole number of the smallest units, in which doubles and integers
  compare exactly.
-/

namespace BalancerImport.Double

/-! ## From decimal numbers -/

/-- The quotient of two numbers, rounded to the nearer integer and to the even one of two. -/
def roundedQuotient (n d : Nat) : Nat :=
  let q := n / d
  let r := n % d
  if 2 * r < d || (2 * r == d && q % 2 == 0) then q else q + 1

/-- Numerator and denominator of a fraction divided by `2 ^ e`. -/
def shifted (top bottom : Nat) (e : Int) : Nat × Nat :=
  (top * Nat.pow 2 (-e).toNat, bottom * Nat.pow 2 e.toNat)

/-- The bits of an infinite double. -/
def infinite : UInt64 := 0x7FF0000000000000

/-- The bits of the double nearest to a positive fraction. -/
def ofFraction (top bottom : Nat) : UInt64 :=
  let guess : Int := (Nat.log2 top : Int) - Nat.log2 bottom - 52
  let (n, d) := shifted top bottom guess
  -- the significand has 53 bits, unless the double is among the smallest
  let e := max (if n / d < Nat.pow 2 52 then guess - 1 else guess) (-1074)
  let (n, d) := shifted top bottom e
  let bits := roundedQuotient n d + (e + 1074).toNat * Nat.pow 2 52
  if infinite.toNat ≤ bits then infinite else bits.toUInt64

/-- The bits of the double nearest to `significand · 10 ^ exponent`. -/
def nearest (significand : Nat) (exponent : Int) : UInt64 :=
  if significand = 0 then 0
  else if 400 < exponent then infinite
  else if exponent < -400 - (Nat.log2 significand : Int) then 0
  else ofFraction (significand * Nat.pow 10 exponent.toNat) (Nat.pow 10 (-exponent).toNat)

/-- The bits of a double with the sign set as asked. -/
def signed (negative : Bool) (bits : UInt64) : UInt64 :=
  if negative then bits ||| 0x8000000000000000 else bits

/-! ## As numbers -/

/-- A double as a number of units of `2 ^ -1074`. -/
def scaled (bits : UInt64) : Int :=
  let p := parts bits
  let size : Nat := p.significand * Nat.pow 2 (p.exponent + 1074).toNat
  if p.negative then -(size : Int) else size

/-- An integer as a number of units of `2 ^ -1074`. -/
def scaledInt (n : Int) : Int := n * Int.pow 2 1074

/-- The integer that a double is, if it is one. -/
def integer? (bits : UInt64) : Option Int :=
  if scaled bits % Int.pow 2 1074 == 0 then some (scaled bits / Int.pow 2 1074) else none

/-- The integral part of a double, towards zero. -/
def truncated (bits : UInt64) : Int := (scaled bits).tdiv (Int.pow 2 1074)

/-! ## As text -/

/-- The 64 leading bits of a power of ten, and the power of two of the last. -/
def leadingTen (power : Int) : Nat × Int :=
  let top := Nat.pow 10 power.toNat
  let bottom := Nat.pow 10 (-power).toNat
  -- no negative power of ten is a power of two
  let bits : Int := if 0 ≤ power then (Nat.log2 top : Int) else -(Nat.log2 bottom : Int) - 1
  let (n, d) := shifted top bottom (bits - 63)
  (n / d, bits - 63)

/-- The digits of a positive double before they are cut, 18 or 19 of them, and the power of ten of
the last. They are counted in halves, of which an odd one is rounded up. -/
def longDigits (p : Parts) : Nat × Int :=
  let place := magnitude p - 17
  let (ten, exponent) := leadingTen (-place)
  let halves := p.significand * ten / Nat.pow 2 (-(p.exponent + exponent + 1)).toNat
  ((halves + 1) / 2, place)

/-- The digits of a positive double and the power of ten of the last. Digits at the end may come
from an error of rounding: where the 15th and the 16th are nines, 14 digits rounded up are taken,
and where the number is large or the 14th to the 16th are zeros, 13 digits rounded down, if they
read back. Else there are 17 digits, and a 5 as the 18th rounds up. -/
def storedDigits (bits : UInt64) : Nat × Int :=
  let (digits, place) := longDigits (parts bits)
  let count := (Nat.toDigits 10 digits).length
  let leading := digits / Nat.pow 10 (count - 16)
  let beyond : Int := (count - 16 : Nat)
  let candidate : Option (Nat × Int) :=
    if leading % 100 == 99 then some (leading / 100 + 1, place + beyond + 2)
    else if 0 ≤ place || leading % 1000 == 0 then some (leading / 1000, place + beyond + 3)
    else none
  match candidate.filter fun c => nearest c.1 c.2 == bits with
  | some c => c
  | none => ((digits / Nat.pow 10 (count - 18) + 5) / 10, place + beyond - 1)

/-- Digits without the zeros at their end, but one digit at least. -/
def withoutZeros (ds : List Char) : List Char :=
  match (ds.reverse.dropWhile fun d => d == '0').reverse with
  | [] => ['0']
  | ds => ds

/-- Digits with a point before the `point`-th, and at least one digit on either side of it. -/
def pointed (ds : List Char) (point : Int) : List Char :=
  if point ≤ 0 then ['0', '.'] ++ List.replicate (-point).toNat '0' ++ ds
  else
    let whole := ds.take point.toNat ++ List.replicate (point.toNat - ds.length) '0'
    whole ++ ['.'] ++ (if ds.length ≤ point.toNat then ['0'] else ds.drop point.toNat)

/-- An exponent with its sign and two digits at least. -/
def exponentText (e : Int) : List Char :=
  let ds := Nat.toDigits 10 e.natAbs
  ['e', if e < 0 then '-' else '+'] ++ List.replicate (2 - ds.length) '0' ++ ds

/-- The text of a finite double as a database writes it, with an exponent if the number is below
`10 ^ -4` or has more than 17 digits before its point. -/
def storedText (bits : UInt64) : String :=
  let p := parts bits
  if p.significand == 0 then "0.0"
  else
    let (digits, place) := storedDigits (bits &&& 0x7FFFFFFFFFFFFFFF)
    let ds := Nat.toDigits 10 digits
    let point := (ds.length : Int) + place
    let ds := withoutZeros ds
    let body :=
      if point - 1 < -4 || 16 < point - 1 then pointed ds 1 ++ exponentText (point - 1)
      else pointed ds point
    String.ofList ((if p.negative then ['-'] else []) ++ body)

end BalancerImport.Double
