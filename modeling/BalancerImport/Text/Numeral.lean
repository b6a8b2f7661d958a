/-!
# Bounded decimal numerals

Reading integers that must fit a range: an optional sign and ASCII digits, nothing else. The first
character that cannot be used decides the fault, so a numeral that grows too large before a stray
character is too large.

* `readDigits`: digits up to a limit;
* `readUnsigned`, `readSigned`: the two forms of numeral, with their faults (`NumeralFault`);
* `unsigned?`, `signed?`: the same without the fault.
-/

namespace BalancerImport.Text

/-- Why a text is not a numeral of the expected range. -/
inductive NumeralFault where
  | empty
  | invalidDigit
  | tooLarge
  | tooSmall
  deriving DecidableEq, Repr

/-- The value of an ASCII digit. -/
def digitValue? (c : Char) : Option Nat :=
  if '0' ≤ c ∧ c ≤ '9' then some (c.toNat - 48) else none

/-- Reads digits after the value `seen`; `beyond` is the fault of exceeding `limit`. -/
def readDigits (limit : Nat) (beyond : NumeralFault) : Nat → List Char → Except NumeralFault Nat
  | seen, [] => .ok seen
  | seen, c :: cs =>
    match digitValue? c with
    | none => .error .invalidDigit
    | some d =>
      if limit < seen * 10 + d then .error beyond else readDigits limit beyond (seen * 10 + d) cs

/-- Reads a nonempty run of digits. -/
def readMagnitude (limit : Nat) (beyond : NumeralFault) : List Char → Except NumeralFault Nat
  | [] => .error .invalidDigit
  | c :: cs => readDigits limit beyond 0 (c :: cs)

/-- Reads an unsigned numeral up to `limit`. -/
def readUnsigned (limit : Nat) (s : String) : Except NumeralFault Nat :=
  match s.toList with
  | [] => .error .empty
  | '+' :: cs => readMagnitude limit .tooLarge cs
  | cs => readMagnitude limit .tooLarge cs

/-- Reads a signed numeral from `-(limit + 1)` to `limit`. -/
def readSigned (limit : Nat) (s : String) : Except NumeralFault Int :=
  match s.toList with
  | [] => .error .empty
  | '+' :: cs => (readMagnitude limit .tooLarge cs).map Int.ofNat
  | '-' :: cs => (readMagnitude (limit + 1) .tooSmall cs).map fun n => -Int.ofNat n
  | cs => (readMagnitude limit .tooLarge cs).map Int.ofNat

/-- The unsigned numeral that a text is, if it is one. -/
def unsigned? (limit : Nat) (s : String) : Option Nat := (readUnsigned limit s).toOption

/-- The signed numeral that a text is, if it is one. -/
def signed? (limit : Nat) (s : String) : Option Int := (readSigned limit s).toOption

/-- The largest number of 32 bits. -/
def maxWord32 : Nat := 4294967295

/-- The largest number of 64 bits. -/
def maxWord64 : Nat := 18446744073709551615

/-- The largest signed number of 64 bits. -/
def maxInt64 : Nat := 9223372036854775807

end BalancerImport.Text
