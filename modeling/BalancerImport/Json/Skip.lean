import BalancerImport.Json.Parser

/-!
# Passing over JSON values

A value that nobody asks for is passed over: it has to be well formed, but its numbers may be of any
size, its escapes may name halves of characters, and it may nest to any depth. The open brackets are
kept on a stack, so depth costs nothing.

* `skipText`, `skipNumber`: what follows a text or a number;
* `skipValue`: what follows a value.
-/

namespace BalancerImport.Json

open Text

/-- What follows a text, after its opening quote. -/
def skipText : List Char → Option (List Char)
  | [] => none
  | '"' :: r => some r
  | '\\' :: 'u' :: a :: b :: c :: d :: r =>
    if [a, b, c, d].all fun digit => (hexValue? digit).isSome then skipText r else none
  | '\\' :: c :: r => if "\"\\/bfnrt".toList.contains c then skipText r else none
  | c :: r => if c.toNat < 0x20 then none else skipText r

/-- What follows a nonempty run of digits. -/
def skipDigits? (cs : List Char) : Option (List Char) :=
  match cs with
  | [] => none
  | c :: _ =>
    if (digitValue? c).isSome then some (cs.dropWhile fun c => (digitValue? c).isSome) else none

/-- What follows the exponent of a number, if there is one. -/
def skipExponent (cs : List Char) : Option (List Char) :=
  match cs with
  | c :: r =>
    if c == 'e' || c == 'E' then
      match r with
      | '+' :: r => skipDigits? r
      | '-' :: r => skipDigits? r
      | r => skipDigits? r
    else some cs
  | [] => some []

/-- What follows the fraction and the exponent of a number, if there are any. -/
def skipFraction (cs : List Char) : Option (List Char) :=
  match cs with
  | '.' :: r => (skipDigits? r).bind skipExponent
  | r => skipExponent r

/-- What follows a number after its sign. Only zero begins with a zero. -/
def skipUnsigned (cs : List Char) : Option (List Char) :=
  match cs with
  | '0' :: r => if (skipDigits? r).isSome then none else skipFraction r
  | r => (skipDigits? r).bind skipFraction

/-- What follows a number. -/
def skipNumber (cs : List Char) : Option (List Char) :=
  match cs with
  | '-' :: r => skipUnsigned r
  | r => skipUnsigned r

/-- A bracket that is open. -/
inductive Bracket where
  | array
  | object
  deriving DecidableEq, Repr

/-- What has to stand next. -/
inductive Awaited where
  | value
  | key
  /-- A comma or the end of the innermost bracket. -/
  | separator
  deriving DecidableEq, Repr

/-- What follows a word, a text or a number. -/
def skipScalar (cs : List Char) : Option (List Char) :=
  match cs with
  | '"' :: r => skipText r
  | 'n' :: r => readWord ['u', 'l', 'l'] r
  | 't' :: r => readWord ['r', 'u', 'e'] r
  | 'f' :: r => readWord ['a', 'l', 's', 'e'] r
  | r => skipNumber r

/-- What follows a key and its colon. -/
def skipKey (cs : List Char) : Option (List Char) :=
  match cs with
  | '"' :: r =>
    match (skipText r).map skipGap with
    | some (':' :: r) => some r
    | _ => none
  | _ => none

/-- What follows the open brackets, the innermost of which comes first. -/
def skipWithin : Nat → List Bracket → Awaited → List Char → Option (List Char)
  | 0, _, _, _ => none
  | fuel + 1, brackets, .value, cs =>
    match skipGap cs with
    | '[' :: r =>
      match skipGap r with
      | ']' :: r => skipWithin fuel brackets .separator r
      | r => skipWithin fuel (.array :: brackets) .value r
    | '\x7b' :: r =>
      match skipGap r with
      | '\x7d' :: r => skipWithin fuel brackets .separator r
      | r => skipWithin fuel (.object :: brackets) .key r
    | r => (skipScalar r).bind (skipWithin fuel brackets .separator)
  | fuel + 1, brackets, .key, cs => (skipKey (skipGap cs)).bind (skipWithin fuel brackets .value)
  | _ + 1, [], .separator, cs => some cs
  | fuel + 1, .array :: brackets, .separator, cs =>
    match skipGap cs with
    | ',' :: r => skipWithin fuel (.array :: brackets) .value r
    | ']' :: r => skipWithin fuel brackets .separator r
    | _ => none
  | fuel + 1, .object :: brackets, .separator, cs =>
    match skipGap cs with
    | ',' :: r => skipWithin fuel (.object :: brackets) .key r
    | '\x7d' :: r => skipWithin fuel brackets .separator r
    | _ => none

/-- What follows a value. Every step passes over a character at least. -/
def skipValue (cs : List Char) : Option (List Char) := skipWithin (cs.length + 2) [] .value cs

end BalancerImport.Json
