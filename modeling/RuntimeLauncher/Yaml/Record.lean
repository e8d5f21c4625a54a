import RuntimeLauncher.Yaml.Decode

/-!
# Records

A record is a mapping with known fields. All fields may be left out, and what is not known is passed
over, so that files for later versions can still be read.

## Main Definitions

* `RecordField` — a known field
* `Document.record` — decodes a mapping field by field

## Design Notes

A record starts from a default and every field changes it. The fields are taken in the order of the
text. A field that comes a second time is refused before its value is looked at.
-/

namespace RuntimeLauncher.Yaml

/-- A known field of a record: its name, and how a node changes what was read before it. -/
structure RecordField (α : Type) where
  name : String
  read : Path → Node → α → Decode α

namespace Document

/-- Takes the entries of a record one after another. `seen` holds the fields that came already. -/
def fieldsFrom {α : Type} (document : Document) (path : Path) (fields : List (RecordField α)) :
    List String → List (Node × Node) → α → Decode α
  | _, [], found => pure found
  | seen, (key, value) :: rest, found => do
    let name ← document.text "field identifier" path key
    match fields.find? fun field => field.name == name with
    | none =>
      ignored value
      fieldsFrom document path fields seen rest found
    | some field =>
      if seen.contains name then Decode.refuse (.duplicateField name)
      else
        let found ← field.read (.ofKey key :: path) value found
        fieldsFrom document path fields (name :: seen) rest found

/-- A record that starts from a default. -/
def record {α : Type} (document : Document) (expected : String) (default : α)
    (fields : List (RecordField α)) (path : Path) (node : Node) : Decode α :=
  document.mapping expected path node fun entries =>
    document.fieldsFrom path fields [] entries default

end Document

end RuntimeLauncher.Yaml
