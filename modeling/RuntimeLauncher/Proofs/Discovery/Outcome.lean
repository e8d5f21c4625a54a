import RuntimeLauncher.Proofs.Discovery.Steps

/-!
# Where the search for the runtime ends

A store that was filled by a row of insertions answers by its history. So the end of the search can
be told from the insertions: which keys they are made at or below, and what the last one into a
value put there.

## Main Definitions

* `Store.History.Tells` — the last insertion into a value put a text there that a reader accepts
* `Store.History.Withholds` — why the text of a value is not read

## Main Statements

* `isLive_toStore_iff`, `readString_toStore_eq_ok_iff`, `readString_toStore_eq_error_iff` — the
  look-ups of the search, by the history
* `locateRuntime_outcomes` — what the search finds, or the first step that fails with its reason

## Design Notes

The history looks keys up by components, and the components of the version's key are those of the
first key followed by those of the version. A version without any component names the first key
itself.
-/

namespace RuntimeLauncher

namespace Store

namespace History

/-- The last insertion into a value put this text there, and a reader accepts it. -/
def Tells (history : History) (hive : Hive) (path : List (List Char)) (name text : String) : Prop :=
  history.value? hive path name = some (.string text) ∧ text.length ≤ maxLength

/-- Why the text of a value is not read. -/
inductive Withholds (history : History) (hive : Hive) (path name : String) : Error → Prop where
  /-- Nothing was ever put there. -/
  | valueNotFound (h : history.value? hive (KeyPath.components path) name = none) :
      Withholds history hive path name (.valueNotFound (KeyPath.normal path ++ "\\" ++ name))
  /-- The last that was put there is no text. -/
  | wrongType (value : Value)
      (h : history.value? hive (KeyPath.components path) name = some value)
      (hkind : ∀ text, value ≠ .string text) :
      Withholds history hive path name (.wrongType (KeyPath.normal path ++ "\\" ++ name))
  /-- The text is longer than a reader accepts. -/
  | tooLong (text : String)
      (h : history.value? hive (KeyPath.components path) name = some (.string text))
      (hlong : maxLength < text.length) :
      Withholds history hive path name (.tooLong name text.length)

variable {history : History} {hive : Hive} {path name : String}

/-- **The keys that the search opens, by the history.** -/
theorem isLive_toStore_iff : (history.toStore.keyAt hive path).IsLive ↔
    history.HasKey hive (KeyPath.components path) :=
  hasKey_toStore_iff

/-- **The texts that the search reads, by the history.** -/
theorem readString_toStore_eq_ok_iff {text : String} :
    (history.toStore.keyAt hive path).readString name = .ok text ↔
      history.Tells hive (KeyPath.components path) name text := by
  rw [readString_keyAt_eq_ok_iff, Store.Tells, get?_toStore, Tells]

/-- **The texts that it does not read, by the history.** -/
theorem readString_toStore_eq_error_iff {e : Error} :
    (history.toStore.keyAt hive path).readString name = .error e ↔
      history.Withholds hive path name e := by
  have hcell : history.toStore.cells.get?
      ⟨hive, KeyPath.normal path, Text.lowerString name⟩ =
        history.value? hive (KeyPath.components path) name := get?_toStore history hive path name
  rw [Handle.readString_eq_error_iff]
  simp only [keyAt, Handle.valuePath, hcell]
  constructor
  · rintro (⟨h, rfl⟩ | ⟨value, h, hkind, rfl⟩ | ⟨text, h, hlong, rfl⟩)
    · exact .valueNotFound h
    · exact .wrongType value h hkind
    · exact .tooLong text h hlong
  · intro h
    cases h with
    | valueNotFound h => exact .inl ⟨h, rfl⟩
    | wrongType value h hkind => exact .inr (.inl ⟨value, h, hkind, rfl⟩)
    | tooLong text h hlong => exact .inr (.inr ⟨text, h, hlong, rfl⟩)

end History

end Store

/-- **Where the search for the runtime ends.**  On the store that a row of insertions leads to, the
search has one answer.  It is the directory followed by the suffix exactly if the first key exists,
its version is told, the key below it that has the components of the version exists, and the
directory is told there.  Otherwise it is the failure of the first of these four steps, with the
paths as the settings and the store spell them and with the reason why that step fails. -/
theorem locateRuntime_outcomes (history : Store.History) (settings : RuntimeSettings) :
    let store := history.toStore
    let hive := settings.hive
    let key := settings.key
    let top := KeyPath.components key
    (∃ outcome, ∀ other, (locateRuntime settings).Answers store other ↔ other = outcome) ∧
    (∀ path, (locateRuntime settings).Answers store (.ok path) ↔
      history.HasKey hive top ∧ ∃ version, history.Tells hive top settings.versionValue version ∧
        history.HasKey hive (top ++ KeyPath.components version) ∧ ∃ home,
          history.Tells hive (top ++ KeyPath.components version) settings.homeValue home ∧
          path = home ++ settings.binarySuffix) ∧
    ∀ e, (locateRuntime settings).Answers store (.error e) ↔
      (¬ history.HasKey hive top ∧
          e = .openKey key (.keyNotFound (hive.title ++ "\\" ++ KeyPath.normal key))) ∨
        history.HasKey hive top ∧
          ((∃ reason, history.Withholds hive key settings.versionValue reason ∧
              e = .readValue (key ++ "\\" ++ settings.versionValue) reason) ∨
            ∃ version, history.Tells hive top settings.versionValue version ∧
              ((¬ history.HasKey hive (top ++ KeyPath.components version) ∧
                  e = .openKey (key ++ "\\" ++ version)
                    (.keyNotFound (hive.title ++ "\\" ++
                      KeyPath.normal (key ++ "\\" ++ version)))) ∨
                history.HasKey hive (top ++ KeyPath.components version) ∧ ∃ reason,
                  history.Withholds hive (key ++ "\\" ++ version) settings.homeValue reason ∧
                  e = .readValue (key ++ "\\" ++ version ++ "\\" ++ settings.homeValue)
                    reason)) := by
  intro store hive key top
  have hbelow (version : String) :
      KeyPath.components (key ++ "\\" ++ version) = top ++ KeyPath.components version :=
    KeyPath.components_append key version
  simp only [locateRuntime_answers_iff_locates]
  refine ⟨?_, fun path => ?_, fun e => ?_⟩
  · obtain ⟨outcome, h⟩ := exists_locates settings store
    refine ⟨outcome, fun other => ⟨fun hother => hother.answers.unique h.answers, ?_⟩⟩
    rintro rfl
    exact h
  · simp only [locates_ok_iff, RuntimeSettings.topKey, RuntimeSettings.installKey,
      RuntimeSettings.installPath, store, Store.History.isLive_toStore_iff,
      Store.History.readString_toStore_eq_ok_iff, hbelow, top, hive, key]
  · simp only [locates_error_iff, RuntimeSettings.topKey, RuntimeSettings.installKey,
      RuntimeSettings.installPath, store, Store.History.isLive_toStore_iff,
      Store.History.readString_toStore_eq_ok_iff, Store.History.readString_toStore_eq_error_iff,
      Store.Error.absent, hbelow, top, hive, key]

end RuntimeLauncher
