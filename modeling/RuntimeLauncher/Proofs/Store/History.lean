import Mathlib.Data.List.Induction
import RuntimeLauncher.Proofs.Store.KeyPath
import RuntimeLauncher.Store.Basic

/-!
# A store answers by its history of insertions

A store keeps its cells under normal spellings. What it answers can be said without any of them:
by the rows of components that the insertions so far were made at. `History` is that second store.
It has nothing but the insertions in their order, and it looks keys and values up by components.

## Main Definitions

* `Insertion`, `History` — what was put into a store
* `History.toStore` — the store that the insertions lead to
* `History.HasKey`, `History.value?` — looking up by components

## Main Statements

* `hasKey_put_iff`, `get?_put` — what filling a cell does to the two look-ups of a store
* `hasKey_toStore_iff`, `get?_toStore` — the look-ups of the store are those of its history
* `grant_eq_ok_iff`, `grant_eq_error_iff` — when a handle is handed out
* `toStore_lookups_refine_history` — opening a key and reading a text from it, by the history alone

## Design Notes

A key of a history is there when its components come first in those of some insertion, so it exists
as soon as a deeper one does. The value of a cell is that of the last insertion into it, under
whatever spelling.
-/

namespace RuntimeLauncher.Store

/-! ### The look-ups of a store -/

namespace Cells

theorem get?_put (cells : Cells) (cell other : Cell) (value : Value) :
    (cells.put cell value).get? other = if other = cell then some value else cells.get? other := by
  split
  · rename_i h
    rw [h, get?_put_self]
  · rename_i h
    exact get?_put_of_ne cells value h

theorem hasKey_iff {cells : Cells} {hive : Hive} {path : String} :
    cells.hasKey hive path = true ↔
      ∃ entry ∈ cells, entry.1.hive = hive ∧ KeyPath.covers path entry.1.path = true := by
  simp [hasKey]

/-- Filling a cell makes the keys at and above it exist, and takes none away. -/
theorem hasKey_put_iff {cells : Cells} {cell : Cell} {value : Value} {hive : Hive}
    {path : String} :
    (cells.put cell value).hasKey hive path = true ↔
      cell.hive = hive ∧ KeyPath.covers path cell.path = true ∨
        cells.hasKey hive path = true := by
  rw [hasKey_iff, hasKey_iff]
  constructor
  · rintro ⟨entry, hentry, hhive, hcovers⟩
    rcases List.mem_cons.1 hentry with rfl | hold
    · exact .inl ⟨hhive, hcovers⟩
    · exact .inr ⟨entry, (List.mem_filter.1 hold).1, hhive, hcovers⟩
  · rintro (⟨hhive, hcovers⟩ | ⟨entry, hentry, hhive, hcovers⟩)
    · exact ⟨(cell, value), List.mem_cons_self, hhive, hcovers⟩
    · -- The old entry of the cell itself is dropped, and the new one stands at the same place.
      by_cases hcell : entry.1 = cell
      · exact ⟨(cell, value), List.mem_cons_self, hcell ▸ hhive, hcell ▸ hcovers⟩
      · refine ⟨entry, List.mem_cons_of_mem _ (List.mem_filter.2 ⟨hentry, ?_⟩), hhive, hcovers⟩
        simpa using hcell

end Cells

/-! ### Histories -/

/-- A value put into a store, with its place as it was spelled. -/
structure Insertion where
  hive : Hive
  path : String
  name : String
  value : Value

/-- The insertions into a store, in their order. -/
abbrev History := List Insertion

/-- The insertion is into the value `name` of the key with the components `path`. -/
def Insertion.Fills (insertion : Insertion) (hive : Hive) (path : List (List Char))
    (name : String) : Prop :=
  insertion.hive = hive ∧ KeyPath.components insertion.path = path ∧
    Text.sameUpToCase insertion.name.toList name.toList = true

instance (insertion : Insertion) (hive : Hive) (path : List (List Char)) (name : String) :
    Decidable (insertion.Fills hive path name) :=
  inferInstanceAs (Decidable (_ ∧ _ ∧ _))

/-- Two spellings denote one cell if they agree up to separators and case. -/
theorem Insertion.cell_eq_iff {insertion : Insertion} {hive : Hive} {path name : String} :
    Cell.of hive path name = Cell.of insertion.hive insertion.path insertion.name ↔
      insertion.Fills hive (KeyPath.components path) name := by
  rw [eq_comm, Cell.of, Cell.of, Cell.mk.injEq, KeyPath.normal_eq_iff, Text.lowerString_eq_iff]
  rfl

namespace History

/-- The store after the insertions. -/
def toStore (history : History) : Store :=
  history.foldl (fun store i => store.insert i.hive i.path i.name i.value) empty

/-- Some insertion was made at the key with these components or below it. -/
def HasKey (history : History) (hive : Hive) (path : List (List Char)) : Prop :=
  ∃ insertion ∈ history, insertion.hive = hive ∧ path <+: KeyPath.components insertion.path

/-- The value of the last insertion into a cell. -/
def value? (history : History) (hive : Hive) (path : List (List Char)) (name : String) :
    Option Value :=
  ((history.filter fun insertion => insertion.Fills hive path name).getLast?).map Insertion.value

theorem toStore_concat (history : History) (i : Insertion) :
    toStore (history ++ [i]) = (toStore history).insert i.hive i.path i.name i.value := by
  rw [toStore, List.foldl_append]
  rfl

theorem value?_concat (history : History) (i : Insertion) (hive : Hive)
    (path : List (List Char)) (name : String) :
    value? (history ++ [i]) hive path name =
      if i.Fills hive path name then some i.value else value? history hive path name := by
  rw [value?, List.filter_append]
  split
  · rename_i h
    simp [h]
  · rename_i h
    simp [h, value?]

/-- **The keys of a store are those of its history.** -/
theorem hasKey_toStore_iff {history : History} {hive : Hive} {path : String} :
    (toStore history).cells.hasKey hive (KeyPath.normal path) = true ↔
      history.HasKey hive (KeyPath.components path) := by
  -- A history grows at its end, where the store has its last insertion.
  induction history using List.reverseRecOn with
  | nil => simp [toStore, empty, Cells.hasKey, HasKey]
  | append_singleton history i ih =>
    have hlast : (Cell.of i.hive i.path i.name).hive = hive ∧
        KeyPath.covers (KeyPath.normal path) (Cell.of i.hive i.path i.name).path = true ↔
          i.hive = hive ∧ KeyPath.components path <+: KeyPath.components i.path :=
      and_congr Iff.rfl KeyPath.covers_normal_iff
    rw [toStore_concat, insert, Cells.hasKey_put_iff, hlast, ih]
    simp only [HasKey, List.mem_append, List.mem_singleton]
    constructor
    · rintro (h | ⟨j, hj, h⟩)
      · exact ⟨i, .inr rfl, h⟩
      · exact ⟨j, .inl hj, h⟩
    · rintro ⟨j, hj | rfl, h⟩
      · exact .inr ⟨j, hj, h⟩
      · exact .inl h

/-- **The values of a store are those of its history.** -/
theorem get?_toStore (history : History) (hive : Hive) (path name : String) :
    (toStore history).cells.get? (.of hive path name) =
      history.value? hive (KeyPath.components path) name := by
  induction history using List.reverseRecOn with
  | nil => rfl
  | append_singleton history i ih =>
    rw [toStore_concat, insert, Cells.get?_put, value?_concat, ih]
    simp only [Insertion.cell_eq_iff]

end History

/-! ### Opening and reading -/

/-- A handle is handed out exactly for a key that exists. -/
theorem grant_eq_ok_iff {store after : Store} {cells : Cells} {hive : Hive} {path : String}
    {key : Handle} :
    store.grant cells hive path = .ok (key, after) ↔
      cells.hasKey hive path = true ∧ key = ⟨cells, hive, path⟩ ∧
        after = { store with openHandles := store.openHandles + 1 } := by
  rw [grant]
  split
  · rename_i h
    simp only [Except.ok.injEq, Prod.mk.injEq, h, true_and]
    exact and_congr eq_comm eq_comm
  · rename_i h
    simp [h]

theorem grant_eq_error_iff {store : Store} {cells : Cells} {hive : Hive} {path : String}
    {e : Error} :
    store.grant cells hive path = .error e ↔
      cells.hasKey hive path = false ∧ e = .keyNotFound (hive.title ++ "\\" ++ path) := by
  rw [grant]
  split
  · rename_i h
    simp [h]
  · rename_i h
    simp only [Except.error.injEq, Bool.not_eq_true _ ▸ h, true_and]
    exact eq_comm

theorem Handle.getString_eq_ok_iff {key : Handle} {name text : String} :
    key.getString name = .ok text ↔
      key.cells.get? ⟨key.hive, key.path, Text.lowerString name⟩ = some (.string text) := by
  rw [getString]
  split <;> simp_all

theorem Handle.getString_eq_wrongType_iff {key : Handle} {name : String} :
    key.getString name = .error (.wrongType (key.valuePath name)) ↔
      ∃ value, key.cells.get? ⟨key.hive, key.path, Text.lowerString name⟩ = some value ∧
        ∀ text, value ≠ .string text := by
  rw [getString]
  split
  · simp_all
  · simp_all
  · rename_i value hother hvalue
    exact ⟨fun _ => ⟨value, hvalue, hother⟩, fun _ => rfl⟩

theorem Handle.getString_eq_valueNotFound_iff {key : Handle} {name : String} :
    key.getString name = .error (.valueNotFound (key.valuePath name)) ↔
      key.cells.get? ⟨key.hive, key.path, Text.lowerString name⟩ = none := by
  rw [getString]
  split <;> simp_all

/-- A text is read exactly if it is there and not too long. -/
theorem Handle.readString_eq_ok_iff {key : Handle} {name text : String} :
    key.readString name = .ok text ↔ key.getString name = .ok text ∧ text.length ≤ maxLength := by
  rw [readString]
  cases key.getString name with
  | error e => exact ⟨nofun, fun h => nomatch h.1⟩
  | ok found =>
    simp only [bind, Except.bind]
    split
    · rename_i hlong
      refine ⟨nofun, ?_⟩
      rintro ⟨⟨⟩, hshort⟩
      omega
    · rename_i hshort
      constructor
      · rintro ⟨⟩
        exact ⟨rfl, Nat.le_of_not_lt hshort⟩
      · rintro ⟨⟨⟩, -⟩
        rfl

/-- Why no text is read: there is no value, the value is no text, or the text is too long. -/
theorem Handle.readString_eq_error_iff {key : Handle} {name : String} {e : Error} :
    key.readString name = .error e ↔
      (key.cells.get? ⟨key.hive, key.path, Text.lowerString name⟩ = none ∧
          e = .valueNotFound (key.valuePath name)) ∨
        (∃ value, key.cells.get? ⟨key.hive, key.path, Text.lowerString name⟩ = some value ∧
          (∀ text, value ≠ .string text) ∧ e = .wrongType (key.valuePath name)) ∨
        ∃ text, key.cells.get? ⟨key.hive, key.path, Text.lowerString name⟩ =
            some (.string text) ∧
          maxLength < text.length ∧ e = .tooLong name text.length := by
  rw [readString, getString]
  split
  · rename_i hnone
    simp [hnone, bind, Except.bind, eq_comm]
  · rename_i text hsome
    simp only [hsome, bind, Except.bind]
    split
    · rename_i hlong
      simp [throw, throwThe, MonadExceptOf.throw, hlong, eq_comm]
    · rename_i hshort
      simp [pure, Except.pure, hshort]
  · rename_i value hother hsome
    have hkind : ∀ text, value ≠ .string text := fun text heq => hother text heq
    simp [hsome, bind, Except.bind, hkind, eq_comm]

/-- A key does not exist through siblings whose names go on where its own name ends, nor through
insertions into the other hive. -/
theorem History.not_hasKey_of_siblings {history : History} {hive : Hive}
    {parent : List (List Char)} {last : List Char}
    (h : ∀ i ∈ history, i.hive = hive → ∃ more rest, more ≠ [] ∧
      KeyPath.components i.path = parent ++ (last ++ more) :: rest) :
    ¬ history.HasKey hive (parent ++ [last]) := by
  rintro ⟨i, hi, hhive, hprefix⟩
  obtain ⟨more, rest, hmore, hpath⟩ := h i hi hhive
  rw [hpath, List.prefix_append_right_inj] at hprefix
  have hlast : last = last ++ more := (List.cons_prefix_cons.1 hprefix).1
  exact hmore (by simpa using hlast)

/-- **Look-ups in a store refine look-ups by components in its history.**  A key opens exactly if
its components come first in those of some insertion into its hive, so never through a sibling
whose name goes on where the key's name ends, nor through the other hive.  Reading from the key
finds the last insertion into the value, up to case. -/
theorem toStore_lookups_refine_history (history : History) (hive : Hive) (path name : String) :
    ((∃ key after, (History.toStore history).open hive path = .ok (key, after)) ↔
        history.HasKey hive (KeyPath.components path)) ∧
      ((History.toStore history).open hive path =
          .error (.keyNotFound (hive.title ++ "\\" ++ KeyPath.normal path)) ↔
        ¬ history.HasKey hive (KeyPath.components path)) ∧
      (∀ key after, (History.toStore history).open hive path = .ok (key, after) →
        (∀ text, key.getString name = .ok text ↔
          history.value? hive (KeyPath.components path) name = some (.string text)) ∧
        (key.getString name = .error (.wrongType (KeyPath.normal path ++ "\\" ++ name)) ↔
          ∃ value, history.value? hive (KeyPath.components path) name = some value ∧
            ∀ text, value ≠ .string text) ∧
        (key.getString name = .error (.valueNotFound (KeyPath.normal path ++ "\\" ++ name)) ↔
          history.value? hive (KeyPath.components path) name = none)) ∧
      ∀ parent last, KeyPath.components path = parent ++ [last] →
        (∀ i ∈ history, i.hive = hive → ∃ more rest, more ≠ [] ∧
          KeyPath.components i.path = parent ++ (last ++ more) :: rest) →
        ¬ ∃ key after, (History.toStore history).open hive path = .ok (key, after) := by
  have hopen : (∃ key after, (History.toStore history).open hive path = .ok (key, after)) ↔
      history.HasKey hive (KeyPath.components path) := by
    simp [«open», grant_eq_ok_iff, History.hasKey_toStore_iff]
  refine ⟨hopen, ?_, ?_, ?_⟩
  · rw [«open», grant_eq_error_iff, ← History.hasKey_toStore_iff]
    simp
  · intro key after h
    obtain ⟨-, rfl, -⟩ := grant_eq_ok_iff.1 h
    rw [← History.get?_toStore]
    exact ⟨fun _ => Handle.getString_eq_ok_iff, Handle.getString_eq_wrongType_iff,
      Handle.getString_eq_valueNotFound_iff⟩
  · intro parent last hpath hsiblings
    rw [hopen, hpath]
    exact History.not_hasKey_of_siblings hsiblings

end RuntimeLauncher.Store
