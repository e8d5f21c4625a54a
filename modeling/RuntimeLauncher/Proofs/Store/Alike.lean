import RuntimeLauncher.Proofs.Store.History
import RuntimeLauncher.Proofs.Store.Sorted
import RuntimeLauncher.Store.Run

/-!
# Stores that no reader can tell apart

A reader of a store is told texts, failures and the count of open handles. So two stores can differ
in values that are no texts, and in the order in which their cells were filled. No row of operations
shows the difference.

## Main Definitions

* `Value.Alike`, `Cells.Alike`, `Handle.Alike`, `Store.Alike`, `Bench.Alike` — what differs at most
  in such a way
* `GrantsAlike` — opening a key comes to the same
* `AnswersAlike` — all operations have the same answers

## Main Statements

* `Bench.Alike.step`, `Bench.Alike.run_eq` — one operation, and a row of them
* `Alike.answersAlike` — stores that are alike answer alike
* `History.toStore_alike` — stores by the values in their histories

## Design Notes

Cells are compared one by one. That is enough for the keys, too, since a key exists by the cells
that are filled and not by what stands in them.
-/

namespace RuntimeLauncher.Store

/-! ### Values and cells -/

/-- A reader gets the same out of both values, since it is told no more than which text stands
there. -/
def Value.Alike (a b : Value) : Prop := ∀ text, a = .string text ↔ b = .string text

theorem Value.Alike.refl (value : Value) : value.Alike value := fun _ => Iff.rfl

theorem Value.Alike.symm {a b : Value} (h : a.Alike b) : b.Alike a := fun text => (h text).symm

/-- The same cells are filled, with values that a reader cannot tell apart. -/
def Cells.Alike (a b : Cells) : Prop :=
  ∀ cell, Option.Rel Value.Alike (a.get? cell) (b.get? cell)

namespace Cells

variable {a b : Cells} {hive : Hive} {path : String}

/-- A key exists by the cells that are filled. -/
theorem hasKey_iff_isSome : a.hasKey hive path = true ↔
    ∃ cell, (a.get? cell).isSome = true ∧ cell.hive = hive ∧
      KeyPath.covers path cell.path = true := by
  rw [hasKey_iff]
  constructor
  · rintro ⟨entry, hentry, hplace⟩
    refine ⟨entry.1, Option.isSome_iff_ne_none.2 fun hnone => ?_, hplace⟩
    simpa using List.lookup_eq_none_iff.1 hnone entry hentry
  · rintro ⟨cell, hfilled, hplace⟩
    obtain ⟨value, hvalue⟩ := Option.isSome_iff_exists.1 hfilled
    exact ⟨(cell, value), Sorted.mem_of_lookup hvalue, hplace⟩

theorem Alike.isSome_eq (h : a.Alike b) (cell : Cell) :
    (a.get? cell).isSome = (b.get? cell).isSome := by
  have hcell := h cell
  generalize a.get? cell = v at hcell
  generalize b.get? cell = w at hcell
  cases hcell <;> rfl

theorem Alike.hasKey_eq (h : a.Alike b) (hive : Hive) (path : String) :
    a.hasKey hive path = b.hasKey hive path := by
  rw [Bool.eq_iff_iff, hasKey_iff_isSome, hasKey_iff_isSome]
  simp only [h.isSome_eq]

theorem Alike.put (h : a.Alike b) (cell : Cell) (value : Value) :
    (a.put cell value).Alike (b.put cell value) := by
  intro other
  rw [get?_put, get?_put]
  split
  · exact .some (.refl value)
  · exact h other

end Cells

/-! ### Handles -/

/-- Handles for the same key, with cells that are alike. -/
structure Handle.Alike (a b : Handle) : Prop where
  cells : a.cells.Alike b.cells
  hive : a.hive = b.hive
  path : a.path = b.path

/-- Reading from a key depends on one cell alone. -/
theorem Handle.getString_eq_of_rel {a b : Cells} {hive : Hive} {path name : String}
    (h : Option.Rel Value.Alike (a.get? ⟨hive, path, Text.lowerString name⟩)
      (b.get? ⟨hive, path, Text.lowerString name⟩)) :
    Handle.getString ⟨a, hive, path⟩ name = Handle.getString ⟨b, hive, path⟩ name := by
  simp only [getString, valuePath]
  generalize a.get? ⟨hive, path, Text.lowerString name⟩ = v at h
  generalize b.get? ⟨hive, path, Text.lowerString name⟩ = w at h
  cases h with
  | none => rfl
  | @some v w hvalue =>
    cases v with
    | string text => rw [(hvalue text).1 rfl]
    | dword | other =>
      cases w with
      | string text => cases (hvalue text).2 rfl
      | dword | other => rfl

theorem Handle.Alike.getString_eq {a b : Handle} (h : a.Alike b) (name : String) :
    a.getString name = b.getString name := by
  obtain ⟨cells, hive, path⟩ := a
  obtain ⟨cells', hive', path'⟩ := b
  obtain ⟨hcells, rfl, rfl⟩ := h
  exact getString_eq_of_rel (hcells _)

theorem Handle.Alike.readString_eq {a b : Handle} (h : a.Alike b) (name : String) :
    a.readString name = b.readString name := by
  rw [readString, readString, h.getString_eq]

/-! ### Stores -/

/-- The cells are alike, and as many handles are open. -/
structure Alike (a b : Store) : Prop where
  cells : a.cells.Alike b.cells
  openHandles : a.openHandles = b.openHandles

/-- Opening a key fails in the same way, or gives handles and stores that are alike. -/
inductive GrantsAlike :
    Except Error (Handle × Store) → Except Error (Handle × Store) → Prop where
  | refused (e : Error) : GrantsAlike (.error e) (.error e)
  | granted {key key' : Handle} {after after' : Store} (hkey : key.Alike key')
    (hafter : after.Alike after') : GrantsAlike (.ok (key, after)) (.ok (key', after'))

namespace Alike

variable {a b : Store}

theorem grant (h : a.Alike b) {c d : Cells} (hcells : c.Alike d) (hive : Hive) (path : String) :
    GrantsAlike (a.grant c hive path) (b.grant d hive path) := by
  rw [Store.grant, Store.grant, hcells.hasKey_eq]
  split
  · exact .granted ⟨hcells, rfl, rfl⟩ ⟨h.cells, congrArg (· + 1) h.openHandles⟩
  · exact .refused _

theorem «open» (h : a.Alike b) (hive : Hive) (path : String) :
    GrantsAlike (a.open hive path) (b.open hive path) :=
  h.grant h.cells hive _

theorem openSubkey (h : a.Alike b) {key key' : Handle} (hkey : key.Alike key') (path : String) :
    GrantsAlike (a.openSubkey key path) (b.openSubkey key' path) := by
  rw [Store.openSubkey, Store.openSubkey, hkey.hive, hkey.path]
  exact h.grant hkey.cells _ _

theorem insert (h : a.Alike b) (hive : Hive) (path name : String) (value : Value) :
    (a.insert hive path name value).Alike (b.insert hive path name value) :=
  ⟨h.cells.put _ value, h.openHandles⟩

theorem release (h : a.Alike b) : a.release.Alike b.release :=
  ⟨h.cells, congrArg (· - 1) h.openHandles⟩

end Alike

/-! ### Rows of operations -/

/-- Every row of operations has the same answers in both stores, with the same counts of open
handles. -/
def AnswersAlike (a b : Store) : Prop :=
  ∀ steps, ((Bench.ofStore a).run steps).1 = ((Bench.ofStore b).run steps).1

namespace Bench

/-- The stores are alike, and so are the handles in the slots. -/
structure Alike (a b : Bench) : Prop where
  store : a.store.Alike b.store
  slots : Sorted.Matched Handle.Alike a.slots b.slots

/-- An operation says the same on both benches and leaves benches that are alike. -/
def StepsAlike (a b : Answer × Bench) : Prop := a.1 = b.1 ∧ a.2.Alike b.2

namespace Alike

variable {a b : Bench}

/-- A slot is empty on both benches or has handles that are alike. -/
theorem lookup_cases (h : a.Alike b) (slot : String) :
    (a.slots.lookup slot = none ∧ b.slots.lookup slot = none) ∨
      ∃ key key', a.slots.lookup slot = some key ∧ b.slots.lookup slot = some key' ∧
        key.Alike key' := by
  have hslot := h.slots.lookup_rel slot
  generalize a.slots.lookup slot = found at hslot ⊢
  generalize b.slots.lookup slot = found' at hslot ⊢
  cases hslot with
  | none => exact .inl ⟨rfl, rfl⟩
  | some hkey => exact .inr ⟨_, _, rfl, rfl, hkey⟩

theorem vacate (h : a.Alike b) (slot : String) : (a.vacate slot).Alike (b.vacate slot) := by
  rw [Bench.vacate, Bench.vacate]
  rcases h.lookup_cases slot with ⟨ha, hb⟩ | ⟨key, key', ha, hb, -⟩
  · rwa [ha, hb]
  · rw [ha, hb]
    exact ⟨h.store.release, h.slots.filter (· != slot)⟩

theorem occupy (h : a.Alike b) (slot : String) {result result' : Except Error (Handle × Store)}
    (hresult : GrantsAlike result result') :
    StepsAlike (a.occupy slot result) (b.occupy slot result') := by
  cases hresult with
  | refused e => exact ⟨rfl, h⟩
  | @granted key key' after after' hkey hafter =>
    have hopened : Alike { a with store := after } { b with store := after' } :=
      ⟨hafter, h.slots⟩
    have hvacated := hopened.vacate slot
    exact ⟨rfl, hvacated.store, .cons ⟨rfl, hkey⟩ hvacated.slots⟩

theorem consult (h : a.Alike b) (slot : String) {read : Handle → Except Error String}
    (hread : ∀ {key key'}, key.Alike key' → read key = read key') :
    StepsAlike (a.consult slot read) (b.consult slot read) := by
  rw [Bench.consult, Bench.consult]
  rcases h.lookup_cases slot with ⟨ha, hb⟩ | ⟨key, key', ha, hb, hkey⟩
  · rw [ha, hb]
    exact ⟨rfl, h⟩
  · simp only [ha, hb, hread hkey]
    cases read key' <;> exact ⟨rfl, h⟩

/-- **One operation** does not tell the benches apart. -/
theorem step (h : a.Alike b) (operation : Step) :
    StepsAlike (a.step operation) (b.step operation) := by
  cases operation with
  | insert hive path name value => exact ⟨rfl, h.store.insert hive path name value, h.slots⟩
  | «open» slot hive path => exact h.occupy slot (h.store.open hive path)
  | openSubkey source slot path =>
    simp only [Bench.step]
    rcases h.lookup_cases source with ⟨ha, hb⟩ | ⟨key, key', ha, hb, hkey⟩
    · rw [ha, hb]
      exact ⟨rfl, h⟩
    · rw [ha, hb]
      exact h.occupy slot (h.store.openSubkey hkey path)
  | getString slot name => exact h.consult slot fun hkey => hkey.getString_eq name
  | readString slot name => exact h.consult slot fun hkey => hkey.readString_eq name
  | release slot =>
    refine ⟨?_, h.vacate slot⟩
    rcases h.lookup_cases slot with ⟨ha, hb⟩ | ⟨key, key', ha, hb, -⟩ <;>
      simp only [Bench.step, ha, hb, Option.isSome]

/-- **A row of operations** has the same answers on both benches. -/
theorem run_eq (h : a.Alike b) (steps : List Step) : (a.run steps).1 = (b.run steps).1 := by
  induction steps generalizing a b with
  | nil => rfl
  | cons operation rest ih =>
    obtain ⟨hanswer, hnext⟩ := h.step operation
    simp only [Bench.run, hanswer, hnext.store.openHandles, ih hnext]

end Alike

end Bench

/-- **Stores that are alike answer alike.** -/
theorem Alike.answersAlike {a b : Store} (h : a.Alike b) : AnswersAlike a b :=
  Bench.Alike.run_eq ⟨h, .nil⟩

/-! ### Stores with a history -/

namespace History

/-- Insertions fill only cells that some spelling denotes. -/
theorem exists_of_get?_toStore {history : History} {cell : Cell} {value : Value}
    (h : (toStore history).cells.get? cell = some value) :
    ∃ hive path name, cell = .of hive path name := by
  induction history using List.reverseRecOn with
  | nil => cases h
  | append_singleton history i ih =>
    rw [toStore_concat, insert, Cells.get?_put] at h
    split at h
    · rename_i hcell
      exact ⟨_, _, _, hcell⟩
    · exact ih h

theorem openHandles_toStore (history : History) : (toStore history).openHandles = 0 := by
  induction history using List.reverseRecOn with
  | nil => rfl
  | append_singleton history i ih =>
    rw [toStore_concat]
    exact ih

/-- **Stores are alike by the values in their histories.** -/
theorem toStore_alike {a b : History}
    (h : ∀ hive path name, Option.Rel Value.Alike (a.value? hive (KeyPath.components path) name)
      (b.value? hive (KeyPath.components path) name)) : (toStore a).Alike (toStore b) where
  cells cell := by
    by_cases hcell : ∃ hive path name, cell = .of hive path name
    · obtain ⟨hive, path, name, rfl⟩ := hcell
      rw [get?_toStore, get?_toStore]
      exact h hive path name
    · have hnone (history : History) : (toStore history).cells.get? cell = none :=
        Option.eq_none_iff_forall_ne_some.2 fun _ hvalue => hcell (exists_of_get?_toStore hvalue)
      rw [hnone, hnone]
      exact .none
  openHandles := by rw [openHandles_toStore, openHandles_toStore]

end History

end RuntimeLauncher.Store
