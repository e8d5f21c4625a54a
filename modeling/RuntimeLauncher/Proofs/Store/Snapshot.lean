import RuntimeLauncher.Proofs.Store.Descent
import RuntimeLauncher.Proofs.Store.Shared

/-!
# Handles as snapshots

A handle shows the store as it was when its first key was opened. This is said by comparison with a
keeper that has neither a store nor cells. It remembers the insertions so far, and of a handle which
of them were made before its first key was opened, and by which paths it was reached. Whenever it is
asked something, it builds a fresh store from the insertions and opens the paths once more.

## Main Definitions

* `Origin` — what is remembered of a handle
* `Keeper.byHistory` — the keeper that asks a fresh store every time
* `insertions` — the insertions among some operations
* `Remembers` — what is remembered after some operations

## Main Statements

* `byValue_follows_byHistory` — a handle with its cells says what a fresh store says
* `remembers_recalled` — a handle remembers the insertions before some opening of its first key
* `handles_are_snapshots` — the answers of whole runs are those of fresh stores
-/

namespace RuntimeLauncher.Store

/-- Where a handle comes from: the insertions that were made before a key was opened, the hive and
the path of that key, and the paths by which one went down from it. -/
structure Origin where
  seen : History
  hive : Hive
  first : String
  rest : List String

namespace Origin

/-- Builds a fresh store from the insertions, and opens the paths in it. -/
def reopen (origin : Origin) : Except Error (Handle × Store) :=
  (History.toStore origin.seen).openInTurn origin.hive origin.first origin.rest

/-- The origin of a handle below. -/
def sub (origin : Origin) (path : String) : Origin :=
  { origin with rest := origin.rest ++ [path] }

/-- At first, one key of the hive is opened. -/
theorem reopen_nil (history : History) (hive : Hive) (path : String) :
    (Origin.mk history hive path []).reopen = (History.toStore history).open hive path := by
  rw [reopen, openInTurn]
  split
  · rename_i hopen
    exact hopen.symm
  · rename_i hopen
    exact hopen.symm

/-- From a handle, the last path alone has to be opened. -/
theorem reopen_sub {origin : Origin} {key : Handle} {store : Store} (path : String)
    (h : origin.reopen = .ok (key, store)) :
    (origin.sub path).reopen = store.openSubkey key path := by
  rw [reopen, openInTurn] at h
  rw [reopen, sub, openInTurn]
  split at h
  · cases h
  · rename_i hopen
    simp only [hopen, descend_concat, h]

end Origin

/-- The keeper that remembers the insertions, and asks a fresh store every time. -/
def Keeper.byHistory : Keeper History Origin where
  insert := fun history hive path name value => history ++ [⟨hive, path, name, value⟩]
  «open» := fun history hive path =>
    let origin : Origin := ⟨history, hive, path, []⟩
    origin.reopen.map fun _ => (origin, history)
  openSubkey := fun history origin path =>
    (origin.sub path).reopen.map fun _ => (origin.sub path, history)
  view := fun _ origin => origin.reopen.map Prod.fst
  release := fun history _ => history

/-! ### Fresh stores and handles with cells -/

/-- A store holds what was inserted, and the origin of every live handle leads to it. -/
structure Recalls (store : Store) (history : History) (live : List (Handle × Origin)) : Prop where
  cells : store.cells = (History.toStore history).cells
  reopen : ∀ pair ∈ live, ∃ after, pair.2.reopen = .ok (pair.1, after)

namespace Recalls

variable {store : Store} {history : History} {live : List (Handle × Origin)}

/-- A handle that a fresh store hands out as well. -/
theorem grant (h : Recalls store history live) {fresh : Store} {cells : Cells} {hive : Hive}
    {path : String} {origin : Origin} (horigin : origin.reopen = fresh.grant cells hive path) :
    Keeper.OpensAlike Recalls live (store.grant cells hive path)
      (origin.reopen.map fun _ => (origin, history)) := by
  by_cases hkey : cells.hasKey hive path = true
  · rw [Store.grant, if_pos hkey] at horigin ⊢
    rw [horigin]
    exact .opened ⟨h.cells, List.forall_mem_cons.2 ⟨⟨_, horigin⟩, h.reopen⟩⟩
  · rw [Store.grant, if_neg hkey] at horigin ⊢
    rw [horigin]
    exact .refused _

end Recalls

/-- **A handle with its cells says what a fresh store says.** -/
theorem byValue_follows_byHistory : Keeper.byValue.Follows Keeper.byHistory Recalls where
  insert {store history live} h hive path name value := by
    refine ⟨?_, h.reopen⟩
    simp only [Keeper.byHistory, History.toStore_concat, Keeper.byValue, Store.insert, h.cells]
  «open» {store history live} h hive path := by
    have horigin : (Origin.mk history hive path []).reopen =
        (History.toStore history).grant store.cells hive (KeyPath.normal path) := by
      rw [h.cells]
      exact Origin.reopen_nil ..
    exact h.grant horigin
  openSubkey h hkey path := by
    obtain ⟨fresh, horigin⟩ := h.reopen _ hkey
    exact h.grant (Origin.reopen_sub path horigin)
  view h hkey := by
    obtain ⟨fresh, horigin⟩ := h.reopen _ hkey
    simp only [Keeper.byHistory, horigin, Keeper.byValue, Except.map]
  release h hlive := ⟨h.cells, fun pair hpair =>
    h.reopen pair (hlive.mem_iff.2 (List.mem_cons_of_mem _ hpair))⟩

/-! ### Where the handles of a run come from -/

/-- The insertions among some operations. -/
def insertions : List Step → History
  | [] => []
  | .insert hive path name value :: rest => ⟨hive, path, name, value⟩ :: insertions rest
  | _ :: rest => insertions rest

theorem insertions_append (before after : List Step) :
    insertions (before ++ after) = insertions before ++ insertions after := by
  induction before with
  | nil => rfl
  | cons operation rest ih => cases operation <;> simp only [List.cons_append, insertions, ih]

/-- Among the operations, the first key of an origin is opened, and its insertions are those before
that. -/
def Origin.OpenedIn (origin : Origin) (steps : List Step) : Prop :=
  ∃ before slot after, steps = before ++ .open slot origin.hive origin.first :: after ∧
    origin.seen = insertions before

/-- All insertions are remembered, and each handle has its origin in some opening. -/
structure Remembers (steps : List Step) (desk : Desk History Origin) : Prop where
  state : desk.state = insertions steps
  origins : ∀ entry ∈ desk.slots, entry.2.OpenedIn steps

theorem Origin.OpenedIn.append {origin : Origin} {steps : List Step} (h : origin.OpenedIn steps)
    (more : List Step) : origin.OpenedIn (steps ++ more) := by
  obtain ⟨before, slot, after, rfl, hseen⟩ := h
  exact ⟨before, slot, after ++ more, by simp, hseen⟩

namespace Remembers

variable {steps : List Step} {desk : Desk History Origin}

/-- An operation that puts nothing into the store and changes no slot. -/
theorem same (h : Remembers steps desk) {operation : Step} (hnone : insertions [operation] = []) :
    Remembers (steps ++ [operation]) desk where
  state := by rw [h.state, insertions_append, hnone, List.append_nil]
  origins entry hentry := (h.origins entry hentry).append _

theorem vacate (h : Remembers steps desk) (slot : String) :
    Remembers steps (Keeper.byHistory.vacate desk slot) := by
  rw [Keeper.vacate]
  split
  · exact h
  · exact ⟨h.state, fun entry hentry => h.origins entry (List.mem_filter.1 hentry).1⟩

/-- A slot gets a handle only if the handle's origin is known. -/
theorem occupy (h : Remembers steps desk) (slot : String) {origin : Origin}
    (horigin : origin.OpenedIn steps) (found : Except Error (Handle × Store)) :
    Remembers steps
      (Keeper.byHistory.occupy desk slot (found.map fun _ => (origin, desk.state))).2 := by
  cases found with
  | error e => exact h
  | ok found =>
    have hvacated := h.vacate slot
    exact ⟨hvacated.state, List.forall_mem_cons.2 ⟨horigin, hvacated.origins⟩⟩

theorem step (h : Remembers steps desk) (operation : Step) :
    Remembers (steps ++ [operation]) (Keeper.byHistory.step desk operation).2 := by
  cases operation with
  | insert hive path name value =>
    refine ⟨?_, fun entry hentry => (h.origins entry hentry).append _⟩
    rw [insertions_append]
    exact congrArg (· ++ _) h.state
  | «open» slot hive path =>
    have hopened : (Origin.mk desk.state hive path []).OpenedIn
        (steps ++ [.open slot hive path]) := ⟨steps, slot, [], rfl, h.state⟩
    exact (h.same rfl).occupy slot hopened _
  | openSubkey source slot path =>
    rw [Keeper.step]
    split
    · exact h.same rfl
    · rename_i origin hlookup
      have hopened := h.origins (source, origin) (Sorted.mem_of_lookup hlookup)
      have hbelow : (origin.sub path).OpenedIn (steps ++ [.openSubkey source slot path]) :=
        hopened.append _
      exact (h.same rfl).occupy slot hbelow _
  | getString slot name =>
    rw [Keeper.step, Keeper.consult_snd]
    exact h.same rfl
  | readString slot name =>
    rw [Keeper.step, Keeper.consult_snd]
    exact h.same rfl
  | release slot => exact (h.same rfl).vacate slot

end Remembers

/-- A run that asks a fresh store every time. -/
def recalled (steps : List Step) : List Answer × Desk History Origin :=
  Keeper.byHistory.run ⟨[], []⟩ steps

/-- **Each handle of a run has its origin in some opening.** -/
theorem remembers_recalled (steps : List Step) : Remembers steps (recalled steps).2 := by
  induction steps using List.reverseRecOn with
  | nil => exact ⟨rfl, nofun⟩
  | append_singleton steps operation ih =>
    rw [recalled, Keeper.run_concat]
    exact ih.step operation

/-- **Handles are snapshots.**  The answers of a run are those that one gets from fresh stores, in
which of the insertions those alone are made that came before the first key of the handle was
opened. -/
theorem handles_are_snapshots (steps : List Step) :
    (ran steps).1 = (recalled steps).1 ∧
      ((Bench.ofStore .empty).run steps).1.map Prod.fst = (recalled steps).1 ∧
      Remembers steps (recalled steps).2 := by
  have hstart : Keeper.DesksAlike Recalls (Bench.ofStore .empty).desk ⟨[], []⟩ :=
    ⟨[], List.nodup_nil, rfl, rfl, rfl, nofun⟩
  have hbench := (byValue_follows_byHistory.run hstart steps).1
  rw [Keeper.run_byValue] at hbench
  exact ⟨(ran_alike steps).1.trans hbench, hbench, remembers_recalled steps⟩

end RuntimeLauncher.Store
