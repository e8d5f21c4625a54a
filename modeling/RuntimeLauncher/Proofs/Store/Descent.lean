import RuntimeLauncher.Proofs.Store.History

/-!
# Opening a key step by step and at once

A key can be reached by opening a path and then going down from handle to handle, or by one path
that has all the parts with a backslash between neighbours. Both ways lead to the same place: a
handle's path stays normal on the way down, and a key below exists only if all keys over it do.

## Main Definitions

* `Handle.sub`, `Handle.IsLive` — the handle for a key below, and whether its key exists
* `Store.descend`, `Store.openInTurn` — opening keys one below another

## Main Statements

* `Handle.isLive_of_foldl_sub` — whatever exists below a key makes the key exist
* `Handle.foldl_sub_of_normal` — the parts of a descent, glued, are the path that is reached
* `descend_eq_ok`, `descend_eq_ok_inv` — a descent succeeds exactly if its end exists
* `openInTurn_agrees_with_open` — both ways agree on success, on the handle and on the failure of
  the last step

## Design Notes

The intermediate handles stay open here. That shows in the count alone, never in an answer.
-/

namespace RuntimeLauncher.Store

/-! ### Keys below an open one -/

namespace Handle

/-- The handle for a key below. -/
def sub (key : Handle) (path : String) : Handle :=
  ⟨key.cells, key.hive, KeyPath.below key.path path⟩

/-- The key of a handle exists. -/
def IsLive (key : Handle) : Prop := key.cells.hasKey key.hive key.path = true

/-- A key exists if one below it does. -/
theorem isLive_of_sub {key : Handle} {path : String} (h : (key.sub path).IsLive) :
    key.IsLive := by
  simp only [IsLive, sub] at h
  obtain ⟨entry, hentry, hhive, hcovers⟩ := Cells.hasKey_iff.1 h
  exact Cells.hasKey_iff.2 ⟨entry, hentry, hhive, KeyPath.covers_of_covers_below hcovers⟩

/-- **Whatever exists below a key makes the key exist.** -/
theorem isLive_of_foldl_sub {key : Handle} {paths : List String}
    (h : (paths.foldl sub key).IsLive) : key.IsLive := by
  induction paths generalizing key with
  | nil => exact h
  | cons path rest ih =>
    rw [List.foldl_cons] at h
    exact isLive_of_sub (ih h)

/-- **The parts of a descent, glued, are the path that is reached.** -/
theorem foldl_sub_of_normal (cells : Cells) (hive : Hive) (first : String)
    (rest : List String) :
    rest.foldl sub ⟨cells, hive, KeyPath.normal first⟩ =
      ⟨cells, hive, KeyPath.normal ("\\".intercalate (first :: rest))⟩ := by
  induction rest generalizing first with
  | nil => simp
  | cons path rest ih =>
    rw [List.foldl_cons, sub, KeyPath.below_normal, ih, String.intercalate_cons_append]
    simp [String.append_assoc]

end Handle

/-! ### Descents -/

/-- Opens keys one below another, starting from an open key. -/
def descend (store : Store) (key : Handle) : List String → Except Error (Handle × Store)
  | [] => .ok (key, store)
  | path :: rest =>
    match store.openSubkey key path with
    | .error e => .error e
    | .ok (key, store) => store.descend key rest

/-- Opens a key of a hive, and then keys one below another. -/
def openInTurn (store : Store) (hive : Hive) (first : String) (rest : List String) :
    Except Error (Handle × Store) :=
  match store.open hive first with
  | .error e => .error e
  | .ok (key, store) => store.descend key rest

theorem open_eq_ok_iff {store after : Store} {hive : Hive} {path : String} {found : Handle} :
    store.open hive path = .ok (found, after) ↔
      Handle.IsLive ⟨store.cells, hive, KeyPath.normal path⟩ ∧
        found = ⟨store.cells, hive, KeyPath.normal path⟩ ∧
        after = { store with openHandles := store.openHandles + 1 } := by
  rw [«open», grant_eq_ok_iff, Handle.IsLive]

theorem openSubkey_eq_ok_iff {store after : Store} {key found : Handle} {path : String} :
    store.openSubkey key path = .ok (found, after) ↔
      (key.sub path).IsLive ∧ found = key.sub path ∧
        after = { store with openHandles := store.openHandles + 1 } := by
  rw [openSubkey, grant_eq_ok_iff, Handle.IsLive, Handle.sub]

/-- A descent succeeds if the key at its end exists. -/
theorem descend_eq_ok {store : Store} {key : Handle} {paths : List String}
    (h : (paths.foldl Handle.sub key).IsLive) :
    ∃ after, store.descend key paths = .ok (paths.foldl Handle.sub key, after) := by
  induction paths generalizing store key with
  | nil => exact ⟨store, rfl⟩
  | cons path rest ih =>
    rw [List.foldl_cons] at h ⊢
    -- The first step succeeds since something exists below the key that it leads to.
    have hstep : store.openSubkey key path =
        .ok (key.sub path, { store with openHandles := store.openHandles + 1 }) :=
      openSubkey_eq_ok_iff.2 ⟨Handle.isLive_of_foldl_sub h, rfl, rfl⟩
    rw [descend, hstep]
    exact ih h

/-- A descent from an existing key succeeds only if the key at its end exists, and ends there. -/
theorem descend_eq_ok_inv {store after : Store} {key last : Handle} {paths : List String}
    (hkey : key.IsLive) (h : store.descend key paths = .ok (last, after)) :
    (paths.foldl Handle.sub key).IsLive ∧ last = paths.foldl Handle.sub key := by
  induction paths generalizing store key with
  | nil =>
    cases h
    exact ⟨hkey, rfl⟩
  | cons path rest ih =>
    rw [descend] at h
    split at h
    · cases h
    · rename_i hstep
      obtain ⟨hsub, rfl, -⟩ := openSubkey_eq_ok_iff.1 hstep
      rw [List.foldl_cons]
      exact ih hsub h

theorem descend_concat (store : Store) (key : Handle) (paths : List String) (path : String) :
    store.descend key (paths ++ [path]) =
      match store.descend key paths with
      | .error e => .error e
      | .ok (key, store) => store.openSubkey key path := by
  induction paths generalizing store key with
  | nil =>
    simp only [List.nil_append, descend]
    split <;> simp_all
  | cons first rest ih =>
    simp only [List.cons_append, descend]
    split
    · rfl
    · exact ih _ _

/-- Opening in turn succeeds exactly if the glued path exists, and ends at its handle. -/
theorem openInTurn_eq_ok_iff {store : Store} {hive : Hive} {first : String} {rest : List String}
    {key : Handle} :
    (∃ after, store.openInTurn hive first rest = .ok (key, after)) ↔
      key.IsLive ∧
        key = ⟨store.cells, hive, KeyPath.normal ("\\".intercalate (first :: rest))⟩ := by
  rw [← Handle.foldl_sub_of_normal]
  constructor
  · rintro ⟨after, h⟩
    rw [openInTurn] at h
    split at h
    · cases h
    · rename_i hopen
      obtain ⟨hfirst, rfl, -⟩ := open_eq_ok_iff.1 hopen
      obtain ⟨hlast, rfl⟩ := descend_eq_ok_inv hfirst h
      exact ⟨hlast, rfl⟩
  · rintro ⟨hlast, rfl⟩
    have hopen : store.open hive first = .ok (⟨store.cells, hive, KeyPath.normal first⟩,
        { store with openHandles := store.openHandles + 1 }) :=
      open_eq_ok_iff.2 ⟨Handle.isLive_of_foldl_sub hlast, rfl, rfl⟩
    rw [openInTurn, hopen]
    exact descend_eq_ok hlast

/-- If all steps but the last succeed and the last one fails, it fails like opening the glued
path. -/
theorem openInTurn_eq_error {store : Store} {hive : Hive} {first : String} {rest : List String}
    {e : Error} (h : store.openInTurn hive first rest = .error e)
    (hinit : rest = [] ∨ ∃ found, store.openInTurn hive first rest.dropLast = .ok found) :
    store.open hive ("\\".intercalate (first :: rest)) = .error e := by
  rcases List.eq_nil_or_concat rest with rfl | ⟨init, path, rfl⟩
  · rw [openInTurn] at h
    simp only [String.intercalate_singleton]
    split at h
    · rename_i hopen
      rw [hopen, h]
    · cases h
  · rw [List.concat_eq_append] at *
    obtain ⟨⟨key, after⟩, hkey⟩ : ∃ found, store.openInTurn hive first init = .ok found := by
      simpa using hinit
    -- The last step is made from the handle that the steps before it lead to.
    have hlast : after.openSubkey key path = .error e := by
      rw [openInTurn] at h hkey
      split at hkey
      · cases hkey
      · rename_i hopen
        rw [hopen] at h
        simpa [descend_concat, hkey] using h
    obtain ⟨-, rfl⟩ := openInTurn_eq_ok_iff.1 ⟨after, hkey⟩
    obtain ⟨habsent, rfl⟩ := grant_eq_error_iff.1 hlast
    have hglued : "\\".intercalate (first :: (init ++ [path])) =
        "\\".intercalate (first :: init) ++ "\\" ++ path := by
      rw [← List.cons_append, String.intercalate_append_of_ne_nil (by simp) (by simp),
        String.intercalate_singleton]
    rw [«open», grant_eq_error_iff, hglued, ← KeyPath.below_normal]
    exact ⟨habsent, rfl⟩

/-- **Stepwise and direct opening agree.**  Opening a path and then keys one below another succeeds
exactly if the glued path opens. The two handles have the same path and give the same answer to
every reading. If all steps but the last succeed, a failure of the last one is the failure of the
glued path, and it tells that path. -/
theorem openInTurn_agrees_with_open (store : Store) (hive : Hive) (first : String)
    (rest : List String) :
    ((∃ key after, store.openInTurn hive first rest = .ok (key, after)) ↔
        ∃ key after, store.open hive ("\\".intercalate (first :: rest)) = .ok (key, after)) ∧
      (∀ key after direct after', store.openInTurn hive first rest = .ok (key, after) →
        store.open hive ("\\".intercalate (first :: rest)) = .ok (direct, after') →
          key.path = direct.path ∧ ∀ name, key.getString name = direct.getString name) ∧
      ∀ e, store.openInTurn hive first rest = .error e →
        (rest = [] ∨ ∃ found, store.openInTurn hive first rest.dropLast = .ok found) →
          store.open hive ("\\".intercalate (first :: rest)) = .error e ∧
            ∃ text, e = .keyNotFound text := by
  refine ⟨?_, ?_, ?_⟩
  · simp only [openInTurn_eq_ok_iff, open_eq_ok_iff]
    constructor
    · rintro ⟨_, hlive, rfl⟩
      exact ⟨_, _, hlive, rfl, rfl⟩
    · rintro ⟨_, _, hlive, rfl, -⟩
      exact ⟨_, hlive, rfl⟩
  · intro key after direct after' h h'
    obtain ⟨-, rfl⟩ := openInTurn_eq_ok_iff.1 ⟨after, h⟩
    obtain ⟨-, rfl, -⟩ := open_eq_ok_iff.1 h'
    exact ⟨rfl, fun _ => rfl⟩
  · intro e h hinit
    have hopen := openInTurn_eq_error h hinit
    exact ⟨hopen, _, (grant_eq_error_iff.1 hopen).2⟩

end RuntimeLauncher.Store
