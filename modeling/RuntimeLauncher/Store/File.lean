import RuntimeLauncher.Files.Document
import RuntimeLauncher.Log
import RuntimeLauncher.Store.Basic
import RuntimeLauncher.Store.Sorted
import RuntimeLauncher.Yaml.Record

/-!
# Store files

A store file lists values below their names, names below key paths, and key paths below the two
hives.

## Main Definitions

* `Store.Sheet` — what a store file says
* `Store.Sheet.decode` — reads the text of a store file
* `Store.ofSheet`, `Store.ofText` — the store that a file describes
* `Store.load` — reads a file into a store
* `Store.Value.ofText` — reads a single value

## Design Notes

A value is looked at without expecting a kind, so that only what YAML itself takes for a text is a
text: an unquoted `1.8` is a number. Any value that YAML can hold is accepted.

A path or a name that is written twice in the same way counts with its last content. Then paths and
names are taken in the order of their characters, so when two different spellings denote one cell
the later spelling in that order wins, wherever it stands in the file. A file that does not exist
describes the empty store.
-/

namespace RuntimeLauncher.Store

/-- The value names of a key with their values. -/
abbrev Names := List (String × Value)

/-- What a store file says, in the order of its text. -/
structure Sheet where
  localMachine : List (String × Names)
  currentUser : List (String × Names)

/-! ### Decoding -/

/-- The kind of a value read without expectation. -/
def Value.ofYaml? : Yaml.Value → Option Value
  | .string text => some (.string text)
  | .int n =>
    if 0 ≤ n ∧ n.toNat < UInt32.size then some (.dword (UInt32.ofNat n.toNat))
    else some (.other (.int n))
  | value => if value.distinctKeys then some (.other value) else none

/-- A node as a stored value with at most `depth` collections nested. -/
def Value.decode (document : Yaml.Document) (depth : Nat) (path : Yaml.Path) (node : Yaml.Node) :
    Yaml.Decode Value := do
  let found ← document.value depth path node
  match Value.ofYaml? found with
  | some value => pure value
  | none => Yaml.Decode.refuse (.noReading "StoreValue")

/-- Reads a text as one stored value. -/
def Value.ofText (text : String) : Except Yaml.Error Value :=
  let document := Yaml.Document.ofText text
  document.decode (Value.decode document Yaml.Document.depthLimit [])

namespace Sheet

/-- A mapping with texts as keys. -/
def textMap {α : Type} (document : Yaml.Document) (value : Yaml.Path → Yaml.Node → Yaml.Decode α)
    (path : Yaml.Path) (node : Yaml.Node) : Yaml.Decode (List (String × α)) :=
  document.mapping "a map" path node
    (Yaml.Document.entries (document.text "a string" path) fun step => value (step :: path))

/-- How deep a value may nest, since three mappings stand around it. -/
def valueDepth : Nat := Yaml.Document.depthLimit - 3

/-- The key paths of one hive. -/
def keys (document : Yaml.Document) : Yaml.Path → Yaml.Node → Yaml.Decode (List (String × Names)) :=
  textMap document (textMap document (Value.decode document valueDepth))

/-- The fields of a store file. -/
def fields (document : Yaml.Document) : List (Yaml.RecordField Sheet) :=
  [ ⟨Hive.localMachine.name, fun path node sheet => do
      pure { sheet with localMachine := ← keys document path node }⟩,
    ⟨Hive.currentUser.name, fun path node sheet => do
      pure { sheet with currentUser := ← keys document path node }⟩ ]

/-- Reads the text of a store file. -/
def decode (text : String) : Except Yaml.Error Sheet :=
  let document := Yaml.Document.ofText text
  document.decode (document.record "struct StoreFile" ⟨[], []⟩ (fields document) [])

/-- The values of one hive in the order in which they are put into the store. -/
def rows (keys : List (String × Names)) : List (String × String × Value) :=
  (Sorted.ofList keys).flatMap fun key =>
    (Sorted.ofList key.2).map fun entry => (key.1, entry.1, entry.2)

end Sheet

/-! ### From sheets to stores -/

/-- Puts the values of one hive into a store. -/
def insertRows (store : Store) (hive : Hive) (rows : List (String × String × Value)) : Store :=
  rows.foldl (fun store row => store.insert hive row.1 row.2.1 row.2.2) store

/-- The store that a sheet describes. -/
def ofSheet (sheet : Sheet) : Store :=
  (empty.insertRows .localMachine (Sheet.rows sheet.localMachine)).insertRows .currentUser
    (Sheet.rows sheet.currentUser)

/-- The store that the text of a file describes. -/
def ofText (text : String) : Except Yaml.Error Store := (Sheet.decode text).map ofSheet

/-- The speaker of this module in the log. -/
def logTarget : String := "jxta_launcher::store::memory"

/-- Reads a store from a file. -/
def load (files : Files) (path : String) : Logged (Except DocumentFile.Error Store) := do
  if files.present path then pure (DocumentFile.load files .store path ofText)
  else
    Logged.debug logTarget ("No store file at " ++ path ++ ", using empty store")
    pure (.ok empty)

end RuntimeLauncher.Store
