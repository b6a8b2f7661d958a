import BalancerImport.Json.Double
import BalancerImport.Text.Numeral

/-!
# Reading JSON documents

A reader for one value with nothing but blanks around it. Nesting stops at a fixed depth, so a
document of bounded depth is read or refused.

* `Json.readNumber`, `Json.readString`, `Json.readValue`: a value at the front of some characters,
  and what follows it;
* `Json.parse?`: a whole document.
-/

namespace BalancerImport.Json

open Text

/-- The characters that may stand between the parts of a document. -/
def isGap (c : Char) : Bool := c == ' ' || c == '\t' || c == '\n' || c == '\r'

/-- What follows the gap at the front. -/
def skipGap (cs : List Char) : List Char := cs.dropWhile isGap

/-! ## Numbers -/

/-- Takes digits into a significand while it fits 64 bits; counts them. -/
def takeDigits (significand count : Nat) : List Char → Nat × Nat × List Char
  | [] => (significand, count, [])
  | c :: cs =>
    match digitValue? c with
    | none => (significand, count, c :: cs)
    | some d =>
      if maxWord64 < significand * 10 + d then (significand, count, c :: cs)
      else takeDigits (significand * 10 + d) (count + 1) cs

/-- Drops digits; counts them. -/
def dropDigits (count : Nat) : List Char → Nat × List Char
  | [] => (count, [])
  | c :: cs => if (digitValue? c).isSome then dropDigits (count + 1) cs else (count, c :: cs)

/-- The number of a literal with a fraction or an exponent, or too large for an integer. -/
def doubleOf? (negative : Bool) (significand : Nat) (exponent : Int) : Option Number :=
  (Double.ofLiteral? negative significand.toUInt64 exponent).map .double

/-- Reads the exponent after its mark. An exponent beyond 32 bits leaves zero or no number. -/
def readExponent (negative : Bool) (significand : Nat) (start : Int) (cs : List Char) :
    Option (Number × List Char) :=
  let (down, cs) : Bool × List Char :=
    match cs with
    | '+' :: r => (false, r)
    | '-' :: r => (true, r)
    | r => (false, r)
  let digits := cs.takeWhile fun c => (digitValue? c).isSome
  let rest := cs.dropWhile fun c => (digitValue? c).isSome
  if digits.isEmpty then none
  else
    let size := Nat.ofDigitChars 10 digits 0
    if size ≤ 2147483647 then
      (doubleOf? negative significand (if down then start - size else start + size)).map (·, rest)
    else if significand != 0 && !down then none
    else (doubleOf? negative 0 0).map (·, rest)

/-- Reads what follows the digits of a fraction. -/
def readAfterFraction (negative : Bool) (significand : Nat) (exponent : Int) (cs : List Char) :
    Option (Number × List Char) :=
  match cs with
  | 'e' :: r => readExponent negative significand exponent r
  | 'E' :: r => readExponent negative significand exponent r
  | r => (doubleOf? negative significand exponent).map (·, r)

/-- Reads a number after its sign. -/
def readUnsignedNumber (negative : Bool) (cs : List Char) : Option (Number × List Char) :=
  let digits := cs.takeWhile fun c => (digitValue? c).isSome
  if digits.isEmpty || (1 < digits.length && digits.head? == some '0') then none
  else
    let (significand, _, r₁) := takeDigits 0 0 cs
    let (dropped, r₂) := dropDigits 0 r₁
    match r₂ with
    | '.' :: r₃ =>
      let (significand', taken, r₄) := takeDigits significand 0 r₃
      let (lost, r₅) := dropDigits 0 r₄
      if taken == 0 && lost == 0 then none
      else readAfterFraction negative significand' ((dropped : Int) - taken) r₅
    | 'e' :: r₃ => readExponent negative significand dropped r₃
    | 'E' :: r₃ => readExponent negative significand dropped r₃
    | r₃ =>
      if dropped != 0 then (doubleOf? negative significand dropped).map (·, r₃)
      else if !negative then some (.int significand, r₃)
      else if significand == 0 || maxInt64 + 1 < significand then
        (doubleOf? true significand 0).map (·, r₃)
      else some (.int (-(significand : Int)), r₃)

/-- Reads a number. -/
def readNumber (cs : List Char) : Option (Number × List Char) :=
  match cs with
  | '-' :: r => readUnsignedNumber true r
  | r => readUnsignedNumber false r

/-! ## Texts -/

/-- The value of a hexadecimal digit. -/
def hexValue? (c : Char) : Option Nat :=
  if '0' ≤ c ∧ c ≤ '9' then some (c.toNat - 48)
  else if 'a' ≤ c ∧ c ≤ 'f' then some (c.toNat - 87)
  else if 'A' ≤ c ∧ c ≤ 'F' then some (c.toNat - 55)
  else none

/-- The value of four hexadecimal digits at the front. -/
def readUnit : List Char → Option (Nat × List Char)
  | a :: b :: c :: d :: r => do
    let a ← hexValue? a
    let b ← hexValue? b
    let c ← hexValue? c
    let d ← hexValue? d
    return (((a * 16 + b) * 16 + c) * 16 + d, r)
  | _ => none

/-- The character of an escape, after its backslash. Two units may form one character; one half of
such a pair by itself is refused. -/
def readEscape : List Char → Option (Char × List Char)
  | '"' :: r => some ('"', r)
  | '\\' :: r => some ('\\', r)
  | '/' :: r => some ('/', r)
  | 'b' :: r => some (Char.ofNat 8, r)
  | 'f' :: r => some (Char.ofNat 12, r)
  | 'n' :: r => some ('\n', r)
  | 'r' :: r => some ('\r', r)
  | 't' :: r => some ('\t', r)
  | 'u' :: r =>
    match readUnit r with
    | none => none
    | some (unit, r) =>
      if 0xDC00 ≤ unit && unit ≤ 0xDFFF then none
      else if 0xD800 ≤ unit && unit ≤ 0xDBFF then
        match r with
        | '\\' :: 'u' :: r =>
          match readUnit r with
          | none => none
          | some (low, r) =>
            if 0xDC00 ≤ low && low ≤ 0xDFFF then
              some (Char.ofNat (0x10000 + (unit - 0xD800) * 0x400 + (low - 0xDC00)), r)
            else none
        | _ => none
      else some (Char.ofNat unit, r)
  | _ => none

/-- Reads the rest of a text after its opening quote; `seen` holds the characters before, last
first. -/
def readString : Nat → List Char → List Char → Option (String × List Char)
  | 0, _, _ => none
  | _ + 1, _, [] => none
  | fuel + 1, seen, c :: cs =>
    if c == '"' then some (String.ofList seen.reverse, cs)
    else if c == '\\' then
      match readEscape cs with
      | some (e, r) => readString fuel (e :: seen) r
      | none => none
    else if c.toNat < 0x20 then none
    else readString fuel (c :: seen) cs

/-! ## Values -/

/-- The rest after an expected word. -/
def readWord (word : List Char) (cs : List Char) : Option (List Char) :=
  if word.isPrefixOf cs then some (cs.drop word.length) else none

mutual

/-- Reads a value after a gap. -/
def readValue : Nat → Nat → List Char → Option (Json × List Char)
  | 0, _, _ => none
  | fuel + 1, depth, cs =>
    match skipGap cs with
    | '"' :: r => (readString (r.length + 1) [] r).map fun (s, r) => (.str s, r)
    | '[' :: r =>
      if depth ≤ 1 then none
      else
        match skipGap r with
        | ']' :: r => some (.arr [], r)
        | r => readItems fuel (depth - 1) [] r
    | '\x7b' :: r =>
      if depth ≤ 1 then none
      else
        match skipGap r with
        | '\x7d' :: r => some (.obj [], r)
        | r => readMembers fuel (depth - 1) [] r
    | 'n' :: r => (readWord ['u', 'l', 'l'] r).map (.null, ·)
    | 't' :: r => (readWord ['r', 'u', 'e'] r).map (.bool true, ·)
    | 'f' :: r => (readWord ['a', 'l', 's', 'e'] r).map (.bool false, ·)
    | r => (readNumber r).map fun (n, r) => (.num n, r)

/-- Reads the items of an array up to its end; `seen` holds those before, last first. -/
def readItems : Nat → Nat → List Json → List Char → Option (Json × List Char)
  | 0, _, _, _ => none
  | fuel + 1, depth, seen, cs =>
    match readValue fuel depth cs with
    | none => none
    | some (j, r) =>
      match skipGap r with
      | ',' :: r => readItems fuel depth (j :: seen) r
      | ']' :: r => some (.arr (j :: seen).reverse, r)
      | _ => none

/-- Reads the members of an object up to its end; `seen` holds those before, last first. -/
def readMembers : Nat → Nat → List (String × Json) → List Char → Option (Json × List Char)
  | 0, _, _, _ => none
  | fuel + 1, depth, seen, cs =>
    match skipGap cs with
    | '"' :: r =>
      match readString (r.length + 1) [] r with
      | none => none
      | some (key, r) =>
        match skipGap r with
        | ':' :: r =>
          match readValue fuel depth r with
          | none => none
          | some (j, r) =>
            match skipGap r with
            | ',' :: r => readMembers fuel depth ((key, j) :: seen) r
            | '\x7d' :: r => some (.obj ((key, j) :: seen).reverse, r)
            | _ => none
        | _ => none
    | _ => none

end

/-- The deepest nesting that is read. -/
def maxDepth : Nat := 128

/-- The value of a document. -/
def parse? (s : String) : Option Json :=
  let cs := s.toList
  match readValue (cs.length + 1) maxDepth cs with
  | some (j, r) => if (skipGap r).isEmpty then some j else none
  | none => none

end BalancerImport.Json
