import RuntimeLauncher.Proofs.Discovery.Unrelated
import RuntimeLauncher.Proofs.Outcome

/-!
# Discovery does not see how things are spelled

Settings and stores spell paths with either separator and names in any case. Two stores that were
filled with the same values under other spellings are one store, and settings that spell the same
keys and names lead through it in the same way. The searches find the same in both, or fail at the
same step for the same reason.

## Main Definitions

* `KeyPath.Respells` — two spellings of one path
* `Store.Insertion.Respells` — one value put at one place, under two spellings
* `RuntimeSettings.Respells`, `ProxySettings.Respells` — settings that differ in spellings alone
* `Store.Error.Respells`, `LocateError.Respells` — failures that differ in what they spell

## Main Statements

* `KeyPath.respells_iff` — two spellings of one path have the same components
* `Store.insertAll_eq_of_respells` — respelled insertions make one store
* `Store.Handle.readString_endsAlike` — reading a value under two spellings of its name
* `Locates.exists_endsAlike` — each way in which the search can end, under other spellings
* `discovery_ignores_spelling` — both searches on respelled stores with respelled settings

## Design Notes

`Respells` compares the pieces of two paths one by one and knows nothing of normal spellings. The
version that the store names is glued to the path of a key. It is the same text on both sides, since
values are not respelled, and a path goes on being respelled behind any text.
-/

namespace RuntimeLauncher

/-! ### Paths and names -/

/-- Two spellings of one name: they agree up to the case of ASCII letters. -/
def NameRespells (a b : String) : Prop := Text.sameUpToCase a.toList b.toList = true

instance (a b : String) : Decidable (NameRespells a b) := inferInstanceAs (Decidable (_ = _))

theorem NameRespells.lowerString_eq {a b : String} (h : NameRespells a b) :
    Text.lowerString a = Text.lowerString b :=
  Text.lowerString_eq_iff.2 h

namespace KeyPath

/-- Two spellings of one path: they have as many components, which agree up to case. The separators
between them, before and after them do not count. -/
def Respells (a b : String) : Prop :=
  List.Forall₂ (fun p q => Text.sameUpToCase p q = true)
    (Text.pieces isSeparator a.toList) (Text.pieces isSeparator b.toList)

variable {a b c d : String}

/-- **Two spellings of one path have the same components in small letters.** -/
theorem respells_iff : Respells a b ↔ components a = components b :=
  components_eq_iff.symm

instance (a b : String) : Decidable (Respells a b) := decidable_of_iff _ respells_iff.symm

theorem Respells.normal_eq (h : Respells a b) : normal a = normal b :=
  normal_eq_iff.2 (respells_iff.1 h)

/-- Two respelled paths stay so when they are glued to two others. -/
theorem Respells.append (h : Respells a b) (h' : Respells c d) :
    Respells (a ++ "\\" ++ c) (b ++ "\\" ++ d) := by
  rw [respells_iff] at h h' ⊢
  rw [components_append, components_append, h, h']

theorem Respells.refl (a : String) : Respells a a := respells_iff.2 rfl

/-- Two spellings of a name are two spellings of a path. -/
theorem Respells.ofName (h : NameRespells a b) : Respells a b := by
  have hlower : Text.lower a.toList = Text.lower b.toList := by
    simpa [NameRespells, Text.sameUpToCase] using h
  rw [respells_iff, components_eq_pieces_lower, components_eq_pieces_lower, hlower]

end KeyPath

/-! ### Stores -/

namespace Store

/-- One value put at one place of one hive, with two spellings of the place. -/
structure Insertion.Respells (a b : Insertion) : Prop where
  hive : a.hive = b.hive
  path : KeyPath.Respells a.path b.path
  name : NameRespells a.name b.name
  value : a.value = b.value

/-- Two spellings of a place denote one cell. -/
theorem Insertion.Respells.cell_eq {a b : Insertion} (h : a.Respells b) : a.cell = b.cell := by
  rw [Insertion.cell, Insertion.cell, Cell.of, Cell.of, h.hive, h.path.normal_eq,
    h.name.lowerString_eq]

theorem Insertion.Respells.insertOne_eq {a b : Insertion} (h : a.Respells b) (store : Store) :
    store.insertOne a = store.insertOne b := by
  have hcell : Cell.of a.hive a.path a.name = Cell.of b.hive b.path b.name := h.cell_eq
  rw [insertOne, insertOne, insert, insert, hcell, h.value]

/-- **Respelled insertions make one store.** -/
theorem insertAll_eq_of_respells {history other : History}
    (h : List.Forall₂ Insertion.Respells history other) (store : Store) :
    store.insertAll history = store.insertAll other := by
  induction h generalizing store with
  | nil => rfl
  | cons hone hrest ih => rw [insertAll_cons, insertAll_cons, hone.insertOne_eq store, ih]

/-! ### Reading a value -/

/-- One reason not to give a value, told of two spellings of its name. Keys are shown in their
normal spelling, and so in the same one. -/
inductive Error.Respells : Error → Error → Prop where
  | keyNotFound (path : String) : Respells (.keyNotFound path) (.keyNotFound path)
  | valueNotFound (path : String) {name name' : String} (h : NameRespells name name') :
      Respells (.valueNotFound (path ++ "\\" ++ name)) (.valueNotFound (path ++ "\\" ++ name'))
  | wrongType (path : String) {name name' : String} (h : NameRespells name name') :
      Respells (.wrongType (path ++ "\\" ++ name)) (.wrongType (path ++ "\\" ++ name'))
  | tooLong (length : Nat) {name name' : String} (h : NameRespells name name') :
      Respells (.tooLong name length) (.tooLong name' length)

/-- **Reading a value under two spellings of its name** gives one text or one reason. -/
theorem Handle.readString_endsAlike (key : Handle) {name name' : String}
    (h : NameRespells name name') :
    EndsAlike Error.Respells (· = ·) (key.readString name) (key.readString name') := by
  have hcell : Text.lowerString name = Text.lowerString name' := h.lowerString_eq
  cases hread : key.readString name with
  | ok text =>
    have hsame : key.readString name' = .ok text := by
      rwa [readString_eq_ok_iff, getString_eq_ok_iff, hcell, ← getString_eq_ok_iff,
        ← readString_eq_ok_iff] at hread
    rw [hsame]
    exact .ok rfl
  | error e =>
    rw [readString_eq_error_iff, hcell] at hread
    obtain ⟨hnone, rfl⟩ | ⟨value, hvalue, hkind, rfl⟩ | ⟨text, htext, hlong, rfl⟩ := hread
    · have hsame : key.readString name' = .error (.valueNotFound (key.valuePath name')) :=
        readString_eq_error_iff.2 (.inl ⟨hnone, rfl⟩)
      rw [hsame]
      exact .error (.valueNotFound key.path h)
    · have hsame : key.readString name' = .error (.wrongType (key.valuePath name')) :=
        readString_eq_error_iff.2 (.inr (.inl ⟨value, hvalue, hkind, rfl⟩))
      rw [hsame]
      exact .error (.wrongType key.path h)
    · have hsame : key.readString name' = .error (.tooLong name' text.length) :=
        readString_eq_error_iff.2 (.inr (.inr ⟨text, htext, hlong, rfl⟩))
      rw [hsame]
      exact .error (.tooLong text.length h)

end Store

/-! ### Searches -/

/-- The search fails at one step and for one reason, told of two spellings. -/
inductive LocateError.Respells : LocateError → LocateError → Prop where
  | openKey {path path' : String} {reason reason' : Store.Error}
      (hpath : KeyPath.Respells path path') (hreason : reason.Respells reason') :
      Respells (.openKey path reason) (.openKey path' reason')
  | readValue {path path' : String} {reason reason' : Store.Error}
      (hpath : KeyPath.Respells path path') (hreason : reason.Respells reason') :
      Respells (.readValue path reason) (.readValue path' reason')

/-- Settings that differ in the spelling of keys and names alone. -/
structure RuntimeSettings.Respells (a b : RuntimeSettings) : Prop where
  hive : a.hive = b.hive
  key : KeyPath.Respells a.key b.key
  versionValue : NameRespells a.versionValue b.versionValue
  homeValue : NameRespells a.homeValue b.homeValue
  binarySuffix : a.binarySuffix = b.binarySuffix

/-- Settings that differ in the spelling of the key and the name alone. -/
structure ProxySettings.Respells (a b : ProxySettings) : Prop where
  hive : a.hive = b.hive
  key : KeyPath.Respells a.key b.key
  value : NameRespells a.value b.value
  property : a.property = b.property

theorem ProxySettings.Respells.cell_eq {a b : ProxySettings} (h : a.Respells b) :
    a.cell = b.cell := by
  rw [cell, cell, Store.Cell.of, Store.Cell.of, h.hive, h.key.normal_eq, h.value.lowerString_eq]

namespace RuntimeSettings.Respells

variable {settings other : RuntimeSettings}

/-- The path of a version's key is respelled with the path in front. -/
theorem installPath (h : settings.Respells other) (version : String) :
    KeyPath.Respells (settings.installPath version) (other.installPath version) :=
  h.key.append (.refl version)

theorem topKey_eq (h : settings.Respells other) (store : Store) :
    settings.topKey store = other.topKey store := by
  rw [topKey, topKey, Store.keyAt, Store.keyAt, h.hive, h.key.normal_eq]

theorem installKey_eq (h : settings.Respells other) (store : Store) (version : String) :
    settings.installKey store version = other.installKey store version := by
  rw [installKey, installKey, Store.keyAt, Store.keyAt, h.hive, (h.installPath version).normal_eq]

/-- The failure to open a key shows its normal spelling. -/
theorem absent (h : settings.Respells other) {path path' : String}
    (hpath : KeyPath.Respells path path') :
    (Store.Error.absent settings.hive path).Respells (.absent other.hive path') := by
  rw [Store.Error.absent, Store.Error.absent, h.hive, hpath.normal_eq]
  exact .keyNotFound _

end RuntimeSettings.Respells

/-- **Each way in which the search can end, under other spellings.** -/
theorem Locates.exists_endsAlike {settings other : RuntimeSettings} {store : Store}
    {outcome : Except LocateError String} (hsettings : settings.Respells other)
    (h : Locates settings store outcome) :
    ∃ outcome', Locates other store outcome' ∧
      EndsAlike LocateError.Respells (· = ·) outcome outcome' := by
  have htop := hsettings.topKey_eq store
  have hinstall := hsettings.installKey_eq store
  -- The key is one, so its version reads as the same text or is withheld for the same reason.
  have hversion := (settings.topKey store).readString_endsAlike hsettings.versionValue
  rw [htop] at hversion
  cases h with
  | keyAbsent hkey =>
    rw [htop] at hkey
    exact ⟨_, .keyAbsent hkey, .error (.openKey hsettings.key (hsettings.absent hsettings.key))⟩
  | versionUnread reason hkey hread =>
    rw [htop] at hkey hread
    rw [hread] at hversion
    obtain ⟨reason', hother, hreason⟩ := hversion.exists_error
    have hpath := hsettings.key.append (.ofName hsettings.versionValue)
    exact ⟨_, .versionUnread reason' hkey hother, .error (.readValue hpath hreason)⟩
  | installAbsent version hkey hread habsent =>
    rw [htop] at hkey hread
    rw [hinstall] at habsent
    rw [hread] at hversion
    have hpath := hsettings.installPath version
    exact ⟨_, .installAbsent version hkey hversion.eq_ok habsent,
      .error (.openKey hpath (hsettings.absent hpath))⟩
  | homeUnread version reason hkey hread hlive hhome =>
    rw [htop] at hkey hread
    rw [hinstall] at hlive hhome
    rw [hread] at hversion
    have hread' := (other.installKey store version).readString_endsAlike hsettings.homeValue
    rw [hhome] at hread'
    obtain ⟨reason', hother, hreason⟩ := hread'.exists_error
    have hpath := (hsettings.installPath version).append (.ofName hsettings.homeValue)
    exact ⟨_, .homeUnread version reason' hkey hversion.eq_ok hlive hother,
      .error (.readValue hpath hreason)⟩
  | found version home hkey hread hlive hhome =>
    rw [htop] at hkey hread
    rw [hinstall] at hlive hhome
    rw [hread] at hversion
    have hread' := (other.installKey store version).readString_endsAlike hsettings.homeValue
    rw [hhome] at hread'
    rw [hsettings.binarySuffix]
    exact ⟨_, .found version home hkey hversion.eq_ok hlive hread'.eq_ok, .ok rfl⟩

/-- **The searches do not see how things are spelled.**  Two rows of insertions put the same values
at the same places, under different spellings of paths and names, into one store, and two settings
spell the same keys and names. Then the search for the runtime finds one path on both sides, or it
fails on both at the same step and for the same reason, and the errors differ in spellings alone.
The search for the proxy finds one address on both sides, or none. -/
theorem discovery_ignores_spelling (store : Store) {history other : Store.History}
    (hhistory : List.Forall₂ Store.Insertion.Respells history other)
    {runtime runtime' : RuntimeSettings} (hruntime : runtime.Respells runtime')
    {proxy proxy' : ProxySettings} (hproxy : proxy.Respells proxy') :
    (∃ outcome outcome',
      (locateRuntime runtime).Answers (store.insertAll history) outcome ∧
      (locateRuntime runtime').Answers (store.insertAll other) outcome' ∧
      EndsAlike LocateError.Respells (· = ·) outcome outcome') ∧
    ∃ address,
      (resolveProxy proxy).Answers (store.insertAll history) address ∧
      (resolveProxy proxy').Answers (store.insertAll other) address := by
  have hstore := Store.insertAll_eq_of_respells hhistory store
  rw [hstore]
  constructor
  · obtain ⟨outcome, hlocates⟩ := exists_locates runtime (store.insertAll other)
    obtain ⟨outcome', hlocates', halike⟩ := hlocates.exists_endsAlike hruntime
    exact ⟨outcome, outcome', hlocates.answers, hlocates'.answers, halike⟩
  · obtain ⟨address, hanswers⟩ := resolveProxy_restores proxy (store.insertAll other)
    refine ⟨address, hanswers, ?_⟩
    rw [resolveProxy_answers_iff] at hanswers ⊢
    rwa [← hproxy.cell_eq]

/-! ### One installation under two spellings -/

namespace Respelled

/-- The settings of the search for the runtime. -/
def runtime : RuntimeSettings :=
  ⟨.localMachine, "Software\\JavaSoft", "CurrentVersion", "JavaHome", "/java"⟩

/-- The same settings under other spellings. -/
def runtimeAnew : RuntimeSettings :=
  ⟨.localMachine, "/SOFTWARE//javasoft/", "currentversion", "JAVAHOME", "/java"⟩

/-- The settings of the search for the proxy. -/
def proxy : ProxySettings := ⟨.currentUser, "Settings\\Net", "ProxyServer", "p"⟩

/-- The same settings under other spellings. -/
def proxyAnew : ProxySettings := ⟨.currentUser, "\\settings/NET", "PROXYserver", "p"⟩

/-- What fills the store. The version is a text with a separator. -/
def history : Store.History :=
  [⟨.localMachine, "Software\\JavaSoft", "CurrentVersion", .string "Run/8"⟩,
    ⟨.localMachine, "Software\\JavaSoft\\Run\\8", "JavaHome", .string "/jre"⟩,
    ⟨.currentUser, "Settings\\Net", "ProxyServer", .string "host"⟩]

/-- The same values under other spellings. -/
def historyAnew : Store.History :=
  [⟨.localMachine, "software//JAVASOFT\\", "CURRENTVERSION", .string "Run/8"⟩,
    ⟨.localMachine, "\\Software/JavaSoft/RUN\\\\8/", "javahome", .string "/jre"⟩,
    ⟨.currentUser, "SETTINGS/net", "proxyserver", .string "host"⟩]

theorem respells_history : List.Forall₂ Store.Insertion.Respells history historyAnew :=
  .cons ⟨rfl, by decide, by decide, rfl⟩ (.cons ⟨rfl, by decide, by decide, rfl⟩
    (.cons ⟨rfl, by decide, by decide, rfl⟩ .nil))

theorem tells_version : (Store.empty.insertAll history).Tells runtime.versionCell "Run/8" :=
  ⟨by rfl, by decide⟩

theorem tells_home : (Store.empty.insertAll history).Tells (runtime.homeCell "Run/8") "/jre" :=
  ⟨by rfl, by decide⟩

theorem tells_proxy : (Store.empty.insertAll history).Tells proxy.cell "host" :=
  ⟨by rfl, by decide⟩

end Respelled

/-- An installation that is found under two spellings, with its proxy. -/
theorem discovery_finds_respelled_installation :
    (List.Forall₂ Store.Insertion.Respells Respelled.history Respelled.historyAnew ∧
      Respelled.runtime.Respells Respelled.runtimeAnew ∧
      Respelled.proxy.Respells Respelled.proxyAnew) ∧
    ((locateRuntime Respelled.runtime).Answers (Store.empty.insertAll Respelled.history)
        (.ok "/jre/java") ∧
      (locateRuntime Respelled.runtimeAnew).Answers (Store.empty.insertAll Respelled.historyAnew)
        (.ok "/jre/java")) ∧
    (resolveProxy Respelled.proxy).Answers (Store.empty.insertAll Respelled.history)
        (some "host") ∧
      (resolveProxy Respelled.proxyAnew).Answers (Store.empty.insertAll Respelled.historyAnew)
        (some "host") := by
  have hruntime : Respelled.runtime.Respells Respelled.runtimeAnew :=
    ⟨rfl, by decide, by decide, by decide, rfl⟩
  have hproxy : Respelled.proxy.Respells Respelled.proxyAnew := ⟨rfl, by decide, by decide, rfl⟩
  have hjava : Locates Respelled.runtime (Store.empty.insertAll Respelled.history)
      (.ok "/jre/java") :=
    locates_ok_iff_tells.2 ⟨"Run/8", Respelled.tells_version, "/jre", Respelled.tells_home, rfl⟩
  have hhost := resolveProxy_answers_some Respelled.tells_proxy
  obtain ⟨⟨outcome, outcome', hbefore, hafter, halike⟩, address, hnow, hthen⟩ :=
    discovery_ignores_spelling Store.empty Respelled.respells_history hruntime hproxy
  obtain rfl := hbefore.unique hjava.answers
  obtain rfl := hnow.unique hhost
  obtain rfl := halike.eq_ok
  exact ⟨⟨Respelled.respells_history, hruntime, hproxy⟩, ⟨hjava.answers, hafter⟩, hhost, hthen⟩

end RuntimeLauncher
