import RuntimeLauncher.Proofs.Discovery
import RuntimeLauncher.Proofs.Store.Descent
import RuntimeLauncher.Proofs.Store.Sorted

/-!
# The four steps of the search for the runtime

The search opens a key, reads a version from it, opens the key of that version and reads a directory
from it. Each step can fail, and what the second step reads decides where the third one goes.

## Main Definitions

* `Store.keyAt` — the handle for the key of a path
* `Store.Tells` — a cell holds a text that a reader accepts
* `Locates` — how the search ends, as rules

## Main Statements

* `locateRuntime_answers_iff_locates` — the search ends as the rules say, on every store
* `locates_error_iff` — the first step that fails, with its reason
* `locates_ok_iff_tells`, `resolveProxy_answers_iff` — what is found, by the cells alone

## Design Notes

A key from which a text is read exists. So success depends on the cells that are read and on nothing
else, and the keys matter only for the reason of a failure.
-/

namespace RuntimeLauncher

namespace Store

/-! ### Keys by their paths -/

/-- The handle for the key of a path. -/
def keyAt (store : Store) (hive : Hive) (path : String) : Handle :=
  ⟨store.cells, hive, KeyPath.normal path⟩

/-- The failure to open the key of a path. -/
def Error.absent (hive : Hive) (path : String) : Error :=
  .keyNotFound (hive.title ++ "\\" ++ KeyPath.normal path)

variable {store : Store} {hive : Hive} {path sub : String}

/-- The key below the key of a path is the key of the longer path. -/
theorem sub_keyAt (store : Store) (hive : Hive) (path sub : String) :
    (store.keyAt hive path).sub sub = store.keyAt hive (path ++ "\\" ++ sub) := by
  rw [Handle.sub, keyAt, keyAt, KeyPath.below_normal]

/-- Opening a key that exists. -/
theorem open_of_isLive (h : (store.keyAt hive path).IsLive) :
    store.open hive path =
      .ok (store.keyAt hive path, { store with openHandles := store.openHandles + 1 }) :=
  open_eq_ok_iff.2 ⟨h, rfl, rfl⟩

/-- Opening a key that does not exist. -/
theorem open_of_not_isLive (h : ¬ (store.keyAt hive path).IsLive) :
    store.open hive path = .error (.absent hive path) :=
  grant_eq_error_iff.2 ⟨Bool.eq_false_iff.2 h, rfl⟩

/-- Opening a key below one of the same cells. The store may have more handles open by then. -/
theorem openSubkey_of_isLive (opened : Store)
    (h : (store.keyAt hive (path ++ "\\" ++ sub)).IsLive) :
    opened.openSubkey (store.keyAt hive path) sub =
      .ok (store.keyAt hive (path ++ "\\" ++ sub),
        { opened with openHandles := opened.openHandles + 1 }) := by
  rw [← sub_keyAt] at h ⊢
  exact openSubkey_eq_ok_iff.2 ⟨h, rfl, rfl⟩

theorem openSubkey_of_not_isLive (opened : Store)
    (h : ¬ (store.keyAt hive (path ++ "\\" ++ sub)).IsLive) :
    opened.openSubkey (store.keyAt hive path) sub =
      .error (.absent hive (path ++ "\\" ++ sub)) := by
  simp only [Handle.IsLive, keyAt, Bool.not_eq_true] at h
  simp only [openSubkey, grant_eq_error_iff, keyAt, KeyPath.below_normal, Error.absent, and_true]
  exact h

/-! ### Cells that are read -/

/-- The cell holds this text, and a reader accepts it. -/
def Tells (store : Store) (cell : Cell) (text : String) : Prop :=
  store.cells.get? cell = some (.string text) ∧ text.length ≤ maxLength

/-- A cell holds one text at most. -/
theorem Tells.unique {cell : Cell} {a b : String} (ha : store.Tells cell a)
    (hb : store.Tells cell b) : a = b := by
  have h := ha.1.symm.trans hb.1
  simpa using h

/-- Reading from the key of a path reads the cell of the path and the name. -/
theorem readString_keyAt_eq_ok_iff {name text : String} :
    (store.keyAt hive path).readString name = .ok text ↔
      store.Tells (.of hive path name) text := by
  rw [Handle.readString_eq_ok_iff, Handle.getString_eq_ok_iff]
  exact Iff.rfl

/-- **A key from which a text is read exists.** -/
theorem Tells.isLive {name text : String} (h : store.Tells (.of hive path name) text) :
    (store.keyAt hive path).IsLive := by
  have hmem : (Cell.of hive path name, Value.string text) ∈ store.cells :=
    Sorted.mem_of_lookup h.1
  have hcovers : KeyPath.covers (KeyPath.normal path) (Cell.of hive path name).path = true := by
    simp [Cell.of, KeyPath.covers]
  exact Cells.hasKey_iff.2 ⟨_, hmem, rfl, hcovers⟩

end Store

/-! ### How the search ends -/

namespace RuntimeSettings

/-- The path of the key of a version, as an error shows it. -/
def installPath (settings : RuntimeSettings) (version : String) : String :=
  settings.key ++ "\\" ++ version

/-- The key that the search starts from. -/
def topKey (settings : RuntimeSettings) (store : Store) : Store.Handle :=
  store.keyAt settings.hive settings.key

/-- The key of a version. -/
def installKey (settings : RuntimeSettings) (store : Store) (version : String) : Store.Handle :=
  store.keyAt settings.hive (settings.installPath version)

/-- The cell that names the version in use. -/
def versionCell (settings : RuntimeSettings) : Store.Cell :=
  .of settings.hive settings.key settings.versionValue

/-- The cell that names the directory of a version. -/
def homeCell (settings : RuntimeSettings) (version : String) : Store.Cell :=
  .of settings.hive (settings.installPath version) settings.homeValue

end RuntimeSettings

/-- How the search for the runtime ends. The first step that fails decides. -/
inductive Locates (settings : RuntimeSettings) (store : Store) :
    Except LocateError String → Prop where
  | keyAbsent (h : ¬ (settings.topKey store).IsLive) :
      Locates settings store (.error (.openKey settings.key (.absent settings.hive settings.key)))
  | versionUnread (reason : Store.Error) (hkey : (settings.topKey store).IsLive)
      (h : (settings.topKey store).readString settings.versionValue = .error reason) :
      Locates settings store
        (.error (.readValue (settings.key ++ "\\" ++ settings.versionValue) reason))
  | installAbsent (version : String) (hkey : (settings.topKey store).IsLive)
      (hversion : (settings.topKey store).readString settings.versionValue = .ok version)
      (h : ¬ (settings.installKey store version).IsLive) :
      Locates settings store
        (.error (.openKey (settings.installPath version)
          (.absent settings.hive (settings.installPath version))))
  | homeUnread (version : String) (reason : Store.Error) (hkey : (settings.topKey store).IsLive)
      (hversion : (settings.topKey store).readString settings.versionValue = .ok version)
      (hinstall : (settings.installKey store version).IsLive)
      (h : (settings.installKey store version).readString settings.homeValue = .error reason) :
      Locates settings store
        (.error (.readValue (settings.installPath version ++ "\\" ++ settings.homeValue) reason))
  | found (version home : String) (hkey : (settings.topKey store).IsLive)
      (hversion : (settings.topKey store).readString settings.versionValue = .ok version)
      (hinstall : (settings.installKey store version).IsLive)
      (h : (settings.installKey store version).readString settings.homeValue = .ok home) :
      Locates settings store (.ok (home ++ settings.binarySuffix))

section Search

variable {settings : RuntimeSettings} {store : Store} {outcome : Except LocateError String}

/-- Following the search along each rule. -/
theorem Locates.answers (h : Locates settings store outcome) :
    (locateRuntime settings).Answers store outcome := by
  cases h with
  | keyAbsent h => exact .withKey_of_error (Store.open_of_not_isLive h) (.pure _)
  | versionUnread reason hkey h =>
    have hopen := Store.open_of_isLive hkey
    rw [RuntimeSettings.topKey] at h
    refine .withKey hopen (Store.release_of_grant hopen) ?_
    simp only [h]
    exact .pure _
  | installAbsent version hkey hversion h =>
    have hopen := Store.open_of_isLive hkey
    rw [RuntimeSettings.topKey] at hversion
    refine .withKey hopen (Store.release_of_grant hopen) ?_
    simp only [hversion]
    exact .withKey_of_error (Store.openSubkey_of_not_isLive _ h) (.pure _)
  | homeUnread version reason hkey hversion hinstall h =>
    have hopen := Store.open_of_isLive hkey
    have hbelow := Store.openSubkey_of_isLive
      { store with openHandles := store.openHandles + 1 } hinstall
    rw [RuntimeSettings.topKey] at hversion
    rw [RuntimeSettings.installKey, RuntimeSettings.installPath] at h
    refine .withKey hopen (Store.release_of_grant hopen) ?_
    simp only [hversion]
    refine .withKey hbelow (Store.release_of_grant hbelow) ?_
    simp only [h]
    exact .pure _
  | found version home hkey hversion hinstall h =>
    exact locateRuntime_answers_ok (Store.open_of_isLive hkey) hversion
      (Store.openSubkey_of_isLive _ hinstall) h

/-- On every store one of the rules applies. -/
theorem exists_locates (settings : RuntimeSettings) (store : Store) :
    ∃ outcome, Locates settings store outcome := by
  by_cases hkey : (settings.topKey store).IsLive
  · cases hversion : (settings.topKey store).readString settings.versionValue with
    | error reason => exact ⟨_, .versionUnread reason hkey hversion⟩
    | ok version =>
      by_cases hinstall : (settings.installKey store version).IsLive
      · cases hhome : (settings.installKey store version).readString settings.homeValue with
        | error reason => exact ⟨_, .homeUnread version reason hkey hversion hinstall hhome⟩
        | ok home => exact ⟨_, .found version home hkey hversion hinstall hhome⟩
      · exact ⟨_, .installAbsent version hkey hversion hinstall⟩
  · exact ⟨_, .keyAbsent hkey⟩

/-- **The search ends as the rules say, on every store.** -/
theorem locateRuntime_answers_iff_locates :
    (locateRuntime settings).Answers store outcome ↔ Locates settings store outcome := by
  constructor
  · intro h
    obtain ⟨outcome', hlocates⟩ := exists_locates settings store
    obtain rfl : outcome = outcome' := h.unique hlocates.answers
    exact hlocates
  · exact Locates.answers

/-- **The first step that fails, with its reason.** -/
theorem locates_error_iff {e : LocateError} : Locates settings store (.error e) ↔
    (¬ (settings.topKey store).IsLive ∧
        e = .openKey settings.key (.absent settings.hive settings.key)) ∨
      (settings.topKey store).IsLive ∧
        ((∃ reason, (settings.topKey store).readString settings.versionValue = .error reason ∧
            e = .readValue (settings.key ++ "\\" ++ settings.versionValue) reason) ∨
          ∃ version, (settings.topKey store).readString settings.versionValue = .ok version ∧
            ((¬ (settings.installKey store version).IsLive ∧
                e = .openKey (settings.installPath version)
                  (.absent settings.hive (settings.installPath version))) ∨
              (settings.installKey store version).IsLive ∧
                ∃ reason,
                  (settings.installKey store version).readString settings.homeValue =
                    .error reason ∧
                  e = .readValue (settings.installPath version ++ "\\" ++ settings.homeValue)
                    reason)) := by
  constructor
  · intro h
    cases h with
    | keyAbsent h => exact .inl ⟨h, rfl⟩
    | versionUnread reason hkey h => exact .inr ⟨hkey, .inl ⟨reason, h, rfl⟩⟩
    | installAbsent version hkey hversion h =>
      exact .inr ⟨hkey, .inr ⟨version, hversion, .inl ⟨h, rfl⟩⟩⟩
    | homeUnread version reason hkey hversion hinstall h =>
      exact .inr ⟨hkey, .inr ⟨version, hversion, .inr ⟨hinstall, reason, h, rfl⟩⟩⟩
  · rintro (⟨h, rfl⟩ | ⟨hkey, ⟨reason, h, rfl⟩ | ⟨version, hversion, ⟨h, rfl⟩ |
      ⟨hinstall, reason, h, rfl⟩⟩⟩)
    · exact .keyAbsent h
    · exact .versionUnread reason hkey h
    · exact .installAbsent version hkey hversion h
    · exact .homeUnread version reason hkey hversion hinstall h

theorem locates_ok_iff {path : String} : Locates settings store (.ok path) ↔
    (settings.topKey store).IsLive ∧ ∃ version,
      (settings.topKey store).readString settings.versionValue = .ok version ∧
      (settings.installKey store version).IsLive ∧ ∃ home,
        (settings.installKey store version).readString settings.homeValue = .ok home ∧
        path = home ++ settings.binarySuffix := by
  constructor
  · intro h
    cases h with
    | found version home hkey hversion hinstall h =>
      exact ⟨hkey, version, hversion, hinstall, home, h, rfl⟩
  · rintro ⟨hkey, version, hversion, hinstall, home, h, rfl⟩
    exact .found version home hkey hversion hinstall h

/-- **What is found depends on two cells alone.** The one names the version, and with it the
other. -/
theorem locates_ok_iff_tells {path : String} : Locates settings store (.ok path) ↔
    ∃ version, store.Tells settings.versionCell version ∧
      ∃ home, store.Tells (settings.homeCell version) home ∧
        path = home ++ settings.binarySuffix := by
  rw [locates_ok_iff]
  constructor
  · rintro ⟨-, version, hversion, -, home, hhome, hpath⟩
    exact ⟨version, Store.readString_keyAt_eq_ok_iff.1 hversion, home,
      Store.readString_keyAt_eq_ok_iff.1 hhome, hpath⟩
  · -- Both keys exist, since something is read from them.
    rintro ⟨version, hversion, home, hhome, hpath⟩
    exact ⟨hversion.isLive, version, Store.readString_keyAt_eq_ok_iff.2 hversion, hhome.isLive,
      home, Store.readString_keyAt_eq_ok_iff.2 hhome, hpath⟩

end Search

/-! ### The proxy -/

/-- The cell that names the proxy. -/
def ProxySettings.cell (settings : ProxySettings) : Store.Cell :=
  .of settings.hive settings.key settings.value

section Proxy

variable {settings : ProxySettings} {store : Store} {address : String} {result : Option String}

theorem resolveProxy_answers_some (h : store.Tells settings.cell address) :
    (resolveProxy settings).Answers store (some address) := by
  have hopen := Store.open_of_isLive h.isLive
  refine .withKey hopen (Store.release_of_grant hopen) ?_
  simp only [Store.readString_keyAt_eq_ok_iff.2 h]
  exact (Session.Answers.log (Logged.yields_emit _)).bind (.pure _)

theorem resolveProxy_answers_none (h : ∀ address, ¬ store.Tells settings.cell address) :
    (resolveProxy settings).Answers store none := by
  by_cases hkey : (store.keyAt settings.hive settings.key).IsLive
  · have hopen := Store.open_of_isLive hkey
    refine .withKey hopen (Store.release_of_grant hopen) ?_
    cases hread : (store.keyAt settings.hive settings.key).readString settings.value with
    | ok address => exact absurd (Store.readString_keyAt_eq_ok_iff.1 hread) (h address)
    | error e => exact (Session.Answers.log (Logged.yields_emit _)).bind (.pure _)
  · exact .withKey_of_error (Store.open_of_not_isLive hkey)
      ((Session.Answers.log (Logged.yields_emit _)).bind (.pure _))

/-- **The proxy depends on one cell alone.** -/
theorem resolveProxy_answers_iff : (resolveProxy settings).Answers store result ↔
    ∀ address, result = some address ↔ store.Tells settings.cell address := by
  by_cases h : ∃ address, store.Tells settings.cell address
  · obtain ⟨told, htold⟩ := h
    constructor
    · intro hresult address
      obtain rfl := hresult.unique (resolveProxy_answers_some htold)
      rw [Option.some_inj]
      exact ⟨fun heq => heq ▸ htold, htold.unique⟩
    · intro hresult
      obtain rfl := (hresult told).2 htold
      exact resolveProxy_answers_some htold
  · have hnone := not_exists.1 h
    constructor
    · intro hresult address
      obtain rfl := hresult.unique (resolveProxy_answers_none hnone)
      exact iff_of_false nofun (hnone address)
    · intro hresult
      obtain rfl : result = none :=
        Option.eq_none_iff_forall_ne_some.2 fun address hsome =>
          hnone address ((hresult address).1 hsome)
      exact resolveProxy_answers_none hnone

end Proxy

end RuntimeLauncher
