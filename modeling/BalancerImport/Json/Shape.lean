import BalancerImport.Json.Skip

/-!
# Reading documents of a known shape

A document whose form is known is read along that form: members that its records do not name are
passed over, so nothing is asked of them but that they are well formed.

* `Json.Shape`: a form; `Shape.ofKeys`: a record of some keys;
* `Json.parseAs?`: the value of a document, without the members that its shape does not name.
-/

namespace BalancerImport.Json

/-- The form of a value. A value that has another form is read as it stands. -/
inductive Shape where
  /-- A value whose members are all asked for. -/
  | whole
  | list (item : Shape)
  /-- An object with some members, or an array of them in order. -/
  | record (members : List (String × Shape))

/-- A record of keys whose values are asked for as a whole. -/
def Shape.ofKeys (keys : List String) : Shape := .record (keys.map fun key => (key, .whole))

mutual

/-- Reads a value along a shape, after a gap. -/
def readAs : Nat → Shape → List Char → Option (Json × List Char)
  | 0, _, _ => none
  | fuel + 1, .whole, cs => readValue (fuel + 1) maxDepth cs
  | fuel + 1, .list item, cs =>
    match skipGap cs with
    | '[' :: r =>
      match skipGap r with
      | ']' :: r => some (.arr [], r)
      | r => readItemsAs fuel [] item [] r
    | r => readValue (fuel + 1) maxDepth r
  | fuel + 1, .record members, cs =>
    match skipGap cs with
    | '[' :: r =>
      match skipGap r with
      | ']' :: r => some (.arr [], r)
      | r => readItemsAs fuel (members.map Prod.snd) .whole [] r
    | '\x7b' :: r =>
      match skipGap r with
      | '\x7d' :: r => some (.obj [], r)
      | r => readMembersAs fuel members [] r
    | r => readValue (fuel + 1) maxDepth r

/-- Reads the items of an array up to its end. The first have shapes of their own, those after them
the shape `other`; `seen` holds the items before, last first. -/
def readItemsAs : Nat → List Shape → Shape → List Json → List Char → Option (Json × List Char)
  | 0, _, _, _, _ => none
  | fuel + 1, shapes, other, seen, cs =>
    match readAs fuel (shapes.head?.getD other) cs with
    | none => none
    | some (j, r) =>
      match skipGap r with
      | ',' :: r => readItemsAs fuel shapes.tail other (j :: seen) r
      | ']' :: r => some (.arr (j :: seen).reverse, r)
      | _ => none

/-- Reads the members of an object up to its end, and passes over those that are not among
`members`; `seen` holds the members before, last first. -/
def readMembersAs : Nat → List (String × Shape) → List (String × Json) → List Char →
    Option (Json × List Char)
  | 0, _, _, _ => none
  | fuel + 1, members, seen, cs =>
    match skipGap cs with
    | '"' :: r =>
      match readString (r.length + 1) [] r with
      | none => none
      | some (key, r) =>
        match skipGap r with
        | ':' :: r =>
          let read : Option (List (String × Json) × List Char) :=
            match members.lookup key with
            | some shape => (readAs fuel shape r).map fun (j, r) => ((key, j) :: seen, r)
            | none => (skipValue r).map fun r => (seen, r)
          match read with
          | none => none
          | some (seen, r) =>
            match skipGap r with
            | ',' :: r => readMembersAs fuel members seen r
            | '\x7d' :: r => some (.obj seen.reverse, r)
            | _ => none
        | _ => none
    | _ => none

end

/-- The value of a document, without the members that its shape does not name. -/
def parseAs? (shape : Shape) (document : String) : Option Json :=
  let cs := document.toList
  match readAs (cs.length + 1) shape cs with
  | some (j, r) => if (skipGap r).isEmpty then some j else none
  | none => none

end BalancerImport.Json
