import BalancerImport.Json.Basic

/-!
# Doubles as decimal literals

The decimal text of a double and the double of a decimal literal.

* `Double.parts`: sign, significand and exponent of a double;
* `Double.shortest`: the fewest decimal digits that lie nearer to the double than to any other;
* `Double.ofLiteral?`: the double of a literal, scaled by one power of ten at a time.
-/

namespace BalancerImport.Double

/-- A finite double is `significand · 2 ^ exponent`, negative if `negative`. -/
structure Parts where
  negative : Bool
  significand : Nat
  exponent : Int
  deriving DecidableEq, Repr

/-- The parts of a double. -/
def parts (bits : UInt64) : Parts :=
  let n : Nat := bits.toNat
  let fraction : Nat := n % Nat.pow 2 52
  let raised : Nat := n / Nat.pow 2 52 % Nat.pow 2 11
  { negative := n / Nat.pow 2 63 == 1
    significand := if raised == 0 then fraction else fraction + Nat.pow 2 52
    exponent := (if raised == 0 then (1 : Int) else (raised : Int)) - 1075 }

/-- In quarters of the last bit, how far the numbers that round to the double reach below it; above
it they reach half a bit. At a power of two the double below is nearer. -/
def below (p : Parts) : Nat := if p.significand == Nat.pow 2 52 && p.exponent > -1074 then 1 else 2

/-- The digits `d` such that `d · 10 ^ place` rounds to the double, if there are any; of two the
nearer one, of two equally near the even one. -/
def digitsAt? (p : Parts) (place : Int) : Option Nat :=
  -- compare `4 · m · 2 ^ e` with `4 · d · 10 ^ place` over the common denominator
  let two := Nat.pow 2 p.exponent.toNat
  let ten := Nat.pow 10 (-place).toNat
  let unit := 4 * Nat.pow 10 place.toNat * Nat.pow 2 (-p.exponent).toNat
  let scale := two * ten
  let value := 4 * p.significand * scale
  let low := (4 * p.significand - below p) * scale
  let high := (4 * p.significand + 2) * scale
  let inside (d : Nat) : Bool :=
    if p.significand % 2 == 0 then low ≤ d * unit && d * unit ≤ high
    else low < d * unit && d * unit < high
  let floor := value / unit
  let gapDown := value - floor * unit
  let gapUp := (floor + 1) * unit - value
  match inside floor, inside (floor + 1) with
  | false, false => none
  | true, false => some floor
  | false, true => some (floor + 1)
  | true, true =>
    if gapDown < gapUp then some floor
    else if gapUp < gapDown then some (floor + 1)
    else some (if floor % 2 == 0 then floor else floor + 1)

/-- The number of decimal digits of the integer part, less one, or a little more. -/
def magnitude (p : Parts) : Int :=
  ((Nat.log2 p.significand : Int) + p.exponent) * 30103 / 100000

/-- The first place, from coarse to fine, at which some digits round to the double. -/
def search (p : Parts) : Nat → Int → Nat × Int
  | 0, place => (p.significand, place)
  | fuel + 1, place =>
    match digitsAt? p place with
    | some d => if d == 0 then search p fuel (place - 1) else (d, place)
    | none => search p fuel (place - 1)

/-- The shortest digits of a double and the power of ten of the last one. -/
def shortest (p : Parts) : Nat × Int :=
  if p.significand == 0 then (0, 0) else search p 24 (magnitude p + 2)

/-- A literal that reads back as the double. -/
def literal (bits : UInt64) : String :=
  let p := parts bits
  let (digits, place) := shortest p
  (if p.negative then "-" else "") ++ toString digits ++ "e" ++ toString place

/-- Multiplies a double by a power of ten, or divides it by one, at most `10 ^ 308` at a time.
There is no result beyond the largest double. -/
def scale? : Nat → Float → Int → Option Float
  | 0, _, _ => none
  | fuel + 1, f, e =>
    if e.natAbs ≤ 308 then
      let power := Float.ofScientific 1 false e.natAbs
      if 0 ≤ e then (if (f * power).isInf then none else some (f * power)) else some (f / power)
    else if f == 0 then some f
    else if 0 ≤ e then none
    else scale? fuel (f / Float.ofScientific 1 false 308) (e + 308)

/-- The double nearest to a significand of 64 bits, scaled by a power of ten. -/
def ofLiteral? (negative : Bool) (significand : UInt64) (exponent : Int) : Option UInt64 :=
  (scale? 8 significand.toFloat (max exponent (-2000))).map fun f =>
    (if negative then -f else f).toBits

end BalancerImport.Double
