import BalancerImport.Ledger.Kind
import BalancerImport.Json.Printer
import BalancerImport.Json.Decode

/-!
# Stored columns

How the rows of a database hold identifiers, words and lists: as text, which is read back with the
checks that stored text needs.

* `Stored.readId`, `Stored.readIds`, `Stored.readTexts`, `Stored.readJson`, `Stored.readOperations`:
  what a text holds;
* `Stored.writeTexts`, `Stored.writeOperations`: the text of what is held.
-/

namespace BalancerImport

namespace Stored

/-- An identifier from its text. -/
def readId (s : String) : Except StoreError Uuid :=
  match Uuid.parse? s with
  | some id => .ok id
  | none => .error (.malformedId s)

/-- Identifiers from their texts, up to the first that is malformed. -/
def readIds : List String → Except StoreError (List Uuid)
  | [] => .ok []
  | s :: ss =>
    match readId s with
    | .error e => .error e
    | .ok id => (readIds ss).map (id :: ·)

/-- A document of an expected form. -/
def readAs {α : Type} (decode : Json → Option α) (s : String) : Except StoreError α :=
  match (Json.parse? s).bind decode with
  | some a => .ok a
  | none => .error .malformedJson

/-- A list of texts from a document. -/
def readTexts (s : String) : Except StoreError (List String) := readAs Json.strs? s

/-- A list of operations from a document. -/
def readOperations (s : String) : Except StoreError (List Operation) :=
  readAs (Json.listOf? (Json.named? Named.table)) s

/-- A value from a document. -/
def readJson (s : String) : Except StoreError Json := readAs some s

/-- A vendor from its text. -/
def readVendor (s : String) : Except StoreError Vendor :=
  (Vendor.parse s).mapError StoreError.unknownVendor

/-- The document of a list of texts. -/
def writeTexts (ss : List String) : String := (Json.strs ss).render

/-- The document of a list of operations. -/
def writeOperations (ops : List Operation) : String := writeTexts (ops.map Named.name)

end Stored

end BalancerImport
