import RuntimeLauncher.Store.KeyPath
import RuntimeLauncher.Yaml.Value

/-!
# The settings store

The store is a tree of keys with named values, divided into two hives. A reader opens a key by its
path and gets a handle, reads values through the handle, and releases it. The store counts the
handles that are open.

## Main Definitions

* `Hive`, `Store.Value`, `Store.Cell` — where a value stands and what it is
* `Store`, `Store.insert` — the cells and the count of open handles
* `Store.Handle` — an open key
* `Store.open`, `Store.openSubkey`, `Store.release` — the life of a handle
* `Store.Handle.getString`, `Store.Handle.readString` — reading a value
* `Store.Error` — the reasons to fail, with their wording

## Design Notes

A key is there if a value stands in it or below it, so keys are never made on their own. A handle
holds the cells of the moment it was opened: later insertions do not show through it, nor through
handles opened from it. The count is of the store alone.
-/

namespace RuntimeLauncher

/-- The two halves of the store. -/
inductive Hive where
  | localMachine
  | currentUser
deriving DecidableEq

namespace Hive

/-- The name of a hive in settings. -/
def name : Hive → String
  | .localMachine => "local_machine"
  | .currentUser => "current_user"

/-- The name of a hive in the wording of an error. -/
def title : Hive → String
  | .localMachine => "HKEY_LOCAL_MACHINE"
  | .currentUser => "HKEY_CURRENT_USER"

/-- The hives by their names in settings. -/
def byName : List (String × Hive) :=
  [(localMachine.name, localMachine), (currentUser.name, currentUser)]

end Hive

namespace Store

/-- A stored value. Everything that is neither a text nor a 32-bit number is kept as it was written,
so that one odd entry does not spoil a file. -/
inductive Value where
  | string (text : String)
  | dword (n : UInt32)
  | other (value : Yaml.Value)

/-- Where a value stands. The path is a normal spelling and the name is in small letters. -/
structure Cell where
  hive : Hive
  path : String
  name : String
deriving DecidableEq

/-- The cell that a path and a name denote, whatever their spelling. -/
def Cell.of (hive : Hive) (path name : String) : Cell :=
  ⟨hive, KeyPath.normal path, Text.lowerString name⟩

/-- The filled cells, the last one filled first. Filling a cell anew drops its old entry. -/
abbrev Cells := List (Cell × Value)

namespace Cells

/-- Fills a cell anew. -/
def put (cells : Cells) (cell : Cell) (value : Value) : Cells :=
  (cell, value) :: cells.filter fun entry => entry.1 != cell

/-- The value in a cell. -/
def get? (cells : Cells) (cell : Cell) : Option Value := cells.lookup cell

/-- A key is there: a value stands in it or below it. -/
def hasKey (cells : Cells) (hive : Hive) (path : String) : Bool :=
  cells.any fun entry => entry.1.hive == hive && KeyPath.covers path entry.1.path

/-- A cell just filled holds what was put there. -/
theorem get?_put_self (cells : Cells) (cell : Cell) (value : Value) :
    (cells.put cell value).get? cell = some value := by
  simp [put, get?]

/-- Filling a cell leaves the others alone. -/
theorem get?_put_of_ne (cells : Cells) {cell other : Cell} (value : Value) (h : other ≠ cell) :
    (cells.put cell value).get? other = cells.get? other := by
  have hne : (other == cell) = false := by simp [h]
  have step : ∀ entries : Cells,
      (entries.filter fun entry => entry.1 != cell).lookup other = entries.lookup other := by
    intro entries
    induction entries with
    | nil => rfl
    | cons entry rest ih =>
      obtain ⟨place, kept⟩ := entry
      by_cases he : place = cell
      · simp [he, ih, List.lookup_cons, hne]
      · by_cases ho : other = place
        · simp [he, ho]
        · simp [he, List.lookup_cons, ih]
  simp [put, get?, List.lookup_cons, step, hne]

end Cells

/-- The longest text that is accepted from the store, in characters. -/
def maxLength : Nat := 259

/-- Why the store did not give what was asked for. -/
inductive Error where
  | keyNotFound (path : String)
  | valueNotFound (path : String)
  | wrongType (path : String)
  | tooLong (name : String) (length : Nat)
deriving DecidableEq

/-- The wording of an error. -/
def Error.message : Error → String
  | .keyNotFound path => "key not found: " ++ path
  | .valueNotFound path => "value not found: " ++ path
  | .wrongType path => "value is not a string: " ++ path
  | .tooLong name length =>
    "value " ++ name ++ " is " ++ toString length ++ " characters long, limit is " ++
      toString maxLength

end Store

/-- The settings store. -/
structure Store where
  cells : Store.Cells
  /-- How many handles are open. -/
  openHandles : Nat

namespace Store

/-- An open key, with the cells as they were when it was opened. -/
structure Handle where
  cells : Cells
  hive : Hive
  /-- The normal spelling of the key's path. -/
  path : String

/-- The store without values and handles. -/
def empty : Store := ⟨[], 0⟩

/-- Puts a value into the store. -/
def insert (store : Store) (hive : Hive) (path name : String) (value : Value) : Store :=
  { store with cells := store.cells.put (.of hive path name) value }

/-! ### Handles -/

/-- Hands out a handle for a key of some cells, if the key is there. -/
def grant (store : Store) (cells : Cells) (hive : Hive) (path : String) :
    Except Error (Handle × Store) :=
  if cells.hasKey hive path then
    .ok (⟨cells, hive, path⟩, { store with openHandles := store.openHandles + 1 })
  else .error (.keyNotFound (hive.title ++ "\\" ++ path))

/-- Opens a key of a hive. -/
def «open» (store : Store) (hive : Hive) (path : String) : Except Error (Handle × Store) :=
  store.grant store.cells hive (KeyPath.normal path)

/-- Opens a key below an open one. -/
def openSubkey (store : Store) (key : Handle) (path : String) : Except Error (Handle × Store) :=
  store.grant key.cells key.hive (KeyPath.below key.path path)

/-- Takes a handle back. -/
def release (store : Store) : Store := { store with openHandles := store.openHandles - 1 }

namespace Handle

/-- A value's place as an error shows it. -/
def valuePath (key : Handle) (name : String) : String := key.path ++ "\\" ++ name

/-- The text in a value of the key. -/
def getString (key : Handle) (name : String) : Except Error String :=
  match key.cells.get? ⟨key.hive, key.path, Text.lowerString name⟩ with
  | none => .error (.valueNotFound (key.valuePath name))
  | some (.string text) => .ok text
  | some _ => .error (.wrongType (key.valuePath name))

/-- The text in a value of the key, unless it is longer than a reader accepts. -/
def readString (key : Handle) (name : String) : Except Error String := do
  let text ← key.getString name
  if text.length > maxLength then throw (.tooLong name text.length) else pure text

end Handle

end Store

end RuntimeLauncher
