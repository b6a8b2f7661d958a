import BalancerImport.Text.Blank
import BalancerImport.Text.Numeral

/-!
# Cells of a sheet

How the text of a cell is read: single ports and port ranges, optional integers, lists of ids.

* `CellFault`: why a cell cannot be read, and its wording;
* `parsePorts`, `parseWeight`, `splitIds`.
-/

namespace BalancerImport

/-- Why a cell cannot be read. -/
inductive CellFault where
  /-- A text that is not an integer of the expected range. -/
  | notInteger (text : String)
  /-- A range with more than two bounds. -/
  | tooManyBounds (text : String)
  deriving DecidableEq, Repr

/-- The wording of a fault. -/
def CellFault.message : CellFault → String
  | notInteger text => s!"'{text}' no es un entero válido"
  | tooManyBounds text => s!"'{text}': un rango admite como mucho dos extremos"

namespace Cell

open Text

/-- The characters between two enclosing brackets. -/
def unbracket? : List Char → Option (List Char)
  | '[' :: cs => if cs.getLast? == some ']' then some cs.dropLast else none
  | _ => none

/-- Reads a port number. -/
def parsePort (s : String) : Except CellFault Nat :=
  match unsigned? maxWord32 (trim s) with
  | some n => .ok n
  | none => .error (.notInteger (trim s))

/-- Reads port numbers up to the first that cannot be read. -/
def parsePortList : List String → Except CellFault (List Nat)
  | [] => .ok []
  | s :: ss =>
    match parsePort s with
    | .error e => .error e
    | .ok n => (parsePortList ss).map (n :: ·)

/-- The ports that the bounds of a range stand for. Two ascending bounds within `1` to `65535` stand
for all ports between them; other bounds stand for themselves and are left to the rules. -/
def expandBounds : List Nat → Option (List Nat)
  | [first, last] =>
    if 1 ≤ first ∧ first < last ∧ last ≤ 65535 then some (List.range' first (last - first + 1))
    else some [first, last]
  | _ :: _ :: _ :: _ => none
  | bounds => some bounds

/-- The comma-separated parts that are not blank. -/
def parts (cs : List Char) : List String :=
  ((cs.splitOn ',').filter fun part => !(trimChars part).isEmpty).map String.ofList

/-- Reads a port, or a range of ports in brackets. A blank cell holds none. -/
def parsePorts (s : String) : Except CellFault (List Nat) :=
  match trimChars s.toList with
  | [] => .ok []
  | cs =>
    match unbracket? cs with
    | none => (parsePort (String.ofList cs)).map ([·])
    | some inner =>
      match parsePortList (parts inner) with
      | .error e => .error e
      | .ok bounds =>
        match expandBounds bounds with
        | some ports => .ok ports
        | none => .error (.tooManyBounds (String.ofList cs))

/-- Reads an integer. A blank cell holds none. -/
def parseWeight (s : String) : Except CellFault (Option Int) :=
  if (trim s).isEmpty then .ok none
  else
    match signed? maxInt64 (trim s) with
    | some n => .ok (some n)
    | none => .error (.notInteger (trim s))

/-- An id without the white space and the quotes around it. -/
def bareId (part : List Char) : List Char :=
  trimChars (stripWhile (· == '"') (trimChars part))

/-- The ids of a list that may be enclosed in brackets. Blank entries count for nothing. -/
def splitIds (s : String) : List String :=
  let cs := trimChars s.toList
  let inner := (unbracket? cs).getD cs
  (((inner.splitOn ',').map bareId).filter fun part => !part.isEmpty).map String.ofList

end Cell

end BalancerImport
