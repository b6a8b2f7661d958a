import BalancerImport.Text.CaseTable

/-!
# Upper and lower case

Full case mapping of texts: one character may become several, and a capital sigma that ends a word
is written `ς`.

* `upperChar`, `lowerChar`: the mapping of a character by itself;
* `upper`, `lower`: the mapping of a text.
-/

namespace BalancerImport.Text

/-- Whether a number lies in one of the ranges. -/
def inRanges (ranges : List (Nat × Nat)) (n : Nat) : Bool :=
  ranges.any fun (first, last) => first ≤ n && n ≤ last

/-- The image of a character under runs of single mappings, itself if no run holds it. -/
def mapByRuns (runs : List (Nat × Nat × Nat × Int)) (c : Char) : Char :=
  let n := c.toNat
  match runs.find? fun (first, last, step, _) =>
    first ≤ n && n ≤ last && (n - first) % step == 0 with
  | some (_, _, _, shift) => Char.ofNat (Int.toNat (n + shift))
  | none => c

/-- The image of a character under special mappings, else under runs. -/
def mapChar (specials : List (Nat × List Nat)) (runs : List (Nat × Nat × Nat × Int)) (c : Char) :
    List Char :=
  match specials.lookup c.toNat with
  | some image => image.map Char.ofNat
  | none => [mapByRuns runs c]

/-- The upper-case form of a character. -/
def upperChar (c : Char) : List Char :=
  if c.toNat < 0x80 then [c.toUpper] else mapChar upperSpecials upperRuns c

/-- The lower-case form of a character by itself. -/
def lowerChar (c : Char) : List Char :=
  if c.toNat < 0x80 then [c.toLower] else mapChar lowerSpecials lowerRuns c

/-- Whether the first character that is not ignorable exists and has case. -/
def meetsCased (cs : List Char) : Bool :=
  match cs.dropWhile fun c => inRanges caseIgnorableRanges c.toNat with
  | [] => false
  | c :: _ => inRanges casedRanges c.toNat

/-- The lower-case form of `rest`, where `before` holds the characters before it, nearest first: a
capital sigma after a letter and not before one ends a word. -/
def lowerFrom (before : List Char) : List Char → List Char
  | [] => []
  | c :: rest =>
    let image :=
      if c == 'Σ' then [if meetsCased before && !meetsCased rest then 'ς' else 'σ'] else lowerChar c
    image ++ lowerFrom (c :: before) rest

/-- The upper-case form of a text. -/
def upper (s : String) : String := String.ofList (s.toList.flatMap upperChar)

/-- The lower-case form of a text. -/
def lower (s : String) : String := String.ofList (lowerFrom [] s.toList)

end BalancerImport.Text
