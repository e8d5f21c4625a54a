import RuntimeLauncher.Proofs.Log
import RuntimeLauncher.Proofs.Settings.Leaf
import RuntimeLauncher.Settings.Search

/-!
# What a search for settings comes to

The search goes through the settings files that are there, in the order of their directories. The
first file that cannot be used ends it. If all can be used, each setting has the value of the last
file that sets it.

## Main Definitions

* `Layer.existing` — the settings files that are there
* `Layer.Usable`, `Layer.Unusable` — what reading a settings file comes to
* `Layer.Visits` — how a search goes through files, as rules
* `Leaf.SetBy` — a settings file sets a setting

## Main Statements

* `searchOnto_yields_iff` — a search goes by the rules
* `visits_error_iff` — the first file that cannot be used decides
* `Visits.inLayer_of_setBy`, `Visits.inLayer_of_unset` — the last file that sets a setting decides
* `search_settles` — all of this for the complete settings

## Design Notes

The log is part of a visit. It names the files that were used, so it shows the order of the visits
and that nothing comes after a file that cannot be used.
-/

namespace RuntimeLauncher

namespace Layer

/-- The settings files that are there, in the order of their directories. -/
def existing (files : Files) (dirs : List String) : List String :=
  (dirs.map fun dir => Path.join dir fileName).filter files.present

/-- The file can be read, and its text decodes to the layer. -/
def Usable (files : Files) (path : String) (layer : Layer) : Prop :=
  ∃ text, files.readText path = .ok text ∧ decode text = .ok layer

/-- The file cannot be read as text, or its text does not decode. The error says which, and tells
the file. -/
def Unusable (files : Files) (path : String) (e : DocumentFile.Error) : Prop :=
  (∃ failure, files.readText path = .error failure ∧
    e = ⟨.settings, path, .unreadable failure⟩) ∨
  ∃ text fault, files.readText path = .ok text ∧ decode text = .error fault ∧
    e = ⟨.settings, path, .undecodable fault⟩

/-- What the log says of a file that was used. -/
def loaded (path : String) : Log.Event :=
  ⟨.debug, logTarget, "Loaded launcher config from " ++ path⟩

/-- How a search goes through files that are there. -/
inductive Visits (files : Files) :
    Layer → List String → Except DocumentFile.Error Layer → List Log.Event → Prop where
  | done (lower : Layer) : Visits files lower [] (.ok lower) []
  | stop {lower : Layer} {path : String} {rest : List String} {e : DocumentFile.Error}
      (h : Unusable files path e) : Visits files lower (path :: rest) (.error e) []
  | next {lower upper : Layer} {path : String} {rest : List String}
      {outcome : Except DocumentFile.Error Layer} {events : List Log.Event}
      (h : Usable files path upper) (hrest : Visits files (upper.onto lower) rest outcome events) :
      Visits files lower (path :: rest) outcome (loaded path :: events)

variable {files : Files} {lower layer upper : Layer} {path : String} {paths dirs : List String}
  {e : DocumentFile.Error} {outcome : Except DocumentFile.Error Layer} {events : List Log.Event}

/-! ### Reading one file -/

theorem load_eq_ok_iff :
    DocumentFile.load files .settings path decode = .ok layer ↔ Usable files path layer := by
  unfold DocumentFile.load Usable
  cases files.readText path with
  | error failure => simp
  | ok text => cases h : decode text <;> simp [h]

theorem load_eq_error_iff :
    DocumentFile.load files .settings path decode = .error e ↔ Unusable files path e := by
  unfold DocumentFile.load Unusable
  cases files.readText path with
  | error failure => simpa using eq_comm
  | ok text =>
    cases h : decode text with
    | error fault => simpa [h] using eq_comm
    | ok layer => simp [h]

theorem usable_or_unusable (files : Files) (path : String) :
    (∃ layer, Usable files path layer) ∨ ∃ e, Unusable files path e := by
  cases h : DocumentFile.load files .settings path decode with
  | ok layer => exact .inl ⟨layer, load_eq_ok_iff.1 h⟩
  | error e => exact .inr ⟨e, load_eq_error_iff.1 h⟩

theorem Usable.unique {other : Layer} (h : Usable files path layer)
    (h' : Usable files path other) : layer = other := by
  rw [← load_eq_ok_iff] at h h'
  exact Except.ok.inj (h.symm.trans h')

theorem Usable.not_unusable (h : Usable files path layer) : ¬ Unusable files path e := by
  rw [← load_eq_ok_iff] at h
  rw [← load_eq_error_iff, h]
  exact nofun

/-! ### Going through files -/

theorem searchOnto_yields_of_absent {dir : String} {rest : List String}
    (habsent : files.present (Path.join dir fileName) = false)
    (h : (searchOnto files lower rest).Yields outcome events) :
    (searchOnto files lower (dir :: rest)).Yields outcome events := by
  have hfile : (ofFile files (Path.join dir fileName)).Yields (.ok none) [] := by
    rw [ofFile, habsent]
    exact .pure _
  rw [searchOnto]
  exact hfile.bind h

theorem searchOnto_yields_of_unusable {dir : String} {rest : List String}
    (hpresent : files.present (Path.join dir fileName) = true)
    (h : Unusable files (Path.join dir fileName) e) :
    (searchOnto files lower (dir :: rest)).Yields (.error e) [] := by
  have hfile : (ofFile files (Path.join dir fileName)).Yields (.error e) [] := by
    rw [ofFile, hpresent, load_eq_error_iff.2 h]
    exact .pure _
  rw [searchOnto]
  exact hfile.bind (.pure _)

theorem searchOnto_yields_of_usable {dir : String} {rest : List String}
    (hpresent : files.present (Path.join dir fileName) = true)
    (h : Usable files (Path.join dir fileName) upper)
    (hrest : (searchOnto files (upper.onto lower) rest).Yields outcome events) :
    (searchOnto files lower (dir :: rest)).Yields outcome
      (loaded (Path.join dir fileName) :: events) := by
  have hfile : (ofFile files (Path.join dir fileName)).Yields (.ok (some upper))
      [loaded (Path.join dir fileName)] := by
    rw [ofFile, hpresent, load_eq_ok_iff.2 h]
    exact (Logged.yields_emit _).bind (.pure _)
  rw [searchOnto]
  exact hfile.bind hrest

/-- Following the search along each rule. -/
theorem Visits.searchOnto_yields (h : Visits files lower (existing files dirs) outcome events) :
    (searchOnto files lower dirs).Yields outcome events := by
  induction dirs generalizing lower events with
  | nil =>
    cases h
    exact .pure _
  | cons dir rest ih =>
    rw [existing, List.map_cons, List.filter_cons] at h
    split at h
    · rename_i hpresent
      cases h with
      | stop h => exact searchOnto_yields_of_unusable hpresent h
      | next h hrest => exact searchOnto_yields_of_usable hpresent h (ih hrest)
    · rename_i habsent
      exact searchOnto_yields_of_absent (Bool.eq_false_iff.2 habsent) (ih h)

/-- Some visit goes through the files. -/
theorem exists_visits (files : Files) (lower : Layer) (paths : List String) :
    ∃ outcome events, Visits files lower paths outcome events := by
  induction paths generalizing lower with
  | nil => exact ⟨_, _, .done lower⟩
  | cons path rest ih =>
    obtain ⟨upper, h⟩ | ⟨e, h⟩ := usable_or_unusable files path
    · obtain ⟨outcome, events, hrest⟩ := ih (upper.onto lower)
      exact ⟨outcome, _, .next h hrest⟩
    · exact ⟨_, _, .stop h⟩

/-- **A search goes by the rules.** -/
theorem searchOnto_yields_iff : (searchOnto files lower dirs).Yields outcome events ↔
    Visits files lower (existing files dirs) outcome events := by
  refine ⟨fun h => ?_, Visits.searchOnto_yields⟩
  obtain ⟨outcome', events', hvisits⟩ := exists_visits files lower (existing files dirs)
  obtain ⟨rfl, rfl⟩ := h.unique hvisits.searchOnto_yields
  exact hvisits

/-- **The first file that cannot be used decides.** -/
theorem visits_error_iff : Visits files lower paths (.error e) events ↔
    ∃ before path after, paths = before ++ path :: after ∧
      (∀ earlier ∈ before, ∃ layer, Usable files earlier layer) ∧ Unusable files path e ∧
      events = before.map loaded := by
  constructor
  · intro h
    generalize houtcome : Except.error e = outcome at h
    induction h with
    | done => cases houtcome
    | stop h =>
      cases houtcome
      exact ⟨[], _, _, rfl, by simp, h, rfl⟩
    | @next _ upper path rest _ _ h _ ih =>
      obtain ⟨before, bad, after, rfl, hbefore, hbad, rfl⟩ := ih houtcome
      exact ⟨path :: before, bad, after, rfl, List.forall_mem_cons.2 ⟨⟨upper, h⟩, hbefore⟩, hbad,
        rfl⟩
  · rintro ⟨before, bad, after, rfl, hbefore, hbad, rfl⟩
    induction before generalizing lower with
    | nil => exact .stop hbad
    | cons path before ih =>
      obtain ⟨⟨upper, h⟩, hbefore⟩ := List.forall_mem_cons.1 hbefore
      exact .next h (ih hbefore)

/-- A visit that comes to a layer has used every file, in their order. -/
theorem Visits.events_of_ok (h : Visits files lower paths (.ok layer) events) :
    (∀ path ∈ paths, ∃ upper, Usable files path upper) ∧ events = paths.map loaded := by
  generalize houtcome : Except.ok layer = outcome at h
  induction h with
  | done => exact ⟨by simp, rfl⟩
  | stop => cases houtcome
  | next h _ ih =>
    obtain ⟨hrest, rfl⟩ := ih houtcome
    exact ⟨List.forall_mem_cons.2 ⟨⟨_, h⟩, hrest⟩, rfl⟩

end Layer

/-! ### Single settings -/

namespace Leaf

variable {α : Type} {leaf : Leaf α} {files : Files} {path : String} {value : α}

/-- The file can be used, and its layer sets the setting to the value. -/
def SetBy (leaf : Leaf α) (files : Files) (path : String) (value : α) : Prop :=
  ∃ layer, Layer.Usable files path layer ∧ leaf.inLayer layer = some value

end Leaf

namespace Layer

variable {files : Files} {lower layer : Layer} {paths before after : List String} {path : String}
  {events : List Log.Event} {α : Type} {leaf : Leaf α} {value : α}

/-- Files that leave a setting open do not change it. -/
theorem Visits.inLayer_of_unset (h : Visits files lower paths (.ok layer) events)
    (hunset : ∀ path ∈ paths, ¬ ∃ value, leaf.SetBy files path value) :
    leaf.inLayer layer = leaf.inLayer lower := by
  generalize houtcome : Except.ok layer = outcome at h
  induction h with
  | done =>
    cases houtcome
    rfl
  | stop => cases houtcome
  | @next _ upper _ _ _ _ h _ ih =>
    obtain ⟨hopen, hrest⟩ := List.forall_mem_cons.1 hunset
    have hupper : leaf.inLayer upper = none :=
      Option.eq_none_iff_forall_ne_some.2 fun value hvalue => hopen ⟨value, upper, h, hvalue⟩
    rw [ih hrest houtcome, Leaf.inLayer_onto, hupper, Option.none_or]

/-- **The last file that sets a setting decides.** -/
theorem Visits.inLayer_of_setBy
    (h : Visits files lower (before ++ path :: after) (.ok layer) events)
    (hset : leaf.SetBy files path value)
    (hunset : ∀ later ∈ after, ¬ ∃ value, leaf.SetBy files later value) :
    leaf.inLayer layer = some value := by
  induction before generalizing lower events with
  | nil =>
    cases h with
    | @next _ upper _ _ _ _ h hrest =>
      obtain ⟨layer', husable, hvalue⟩ := hset
      obtain rfl : layer' = upper := husable.unique h
      rw [hrest.inLayer_of_unset hunset, Leaf.inLayer_onto, hvalue, Option.some_or]
  | cons _ _ ih =>
    cases h with
    | next _ hrest => exact ih hrest

/-! ### The search as a whole -/

theorem existing_append (files : Files) (front back : List String) :
    existing files (front ++ back) = existing files front ++ existing files back := by
  rw [existing, List.map_append, List.filter_append]
  rfl

/-- A directory without a settings file does not count. -/
theorem existing_filter_present (files : Files) (dirs : List String) :
    existing files (dirs.filter fun dir => files.present (Path.join dir fileName)) =
      existing files dirs := by
  induction dirs with
  | nil => rfl
  | cons dir rest ih =>
    cases h : files.present (Path.join dir fileName) <;> simp_all [existing]

/-- Two file systems are the same to a search at a path. -/
def SameAt (files other : Files) (path : String) : Prop :=
  other.present path = files.present path ∧ other.readText path = files.readText path

theorem SameAt.usable_iff {other : Files} (h : SameAt files other path) :
    Usable other path layer ↔ Usable files path layer := by
  rw [Usable, Usable, h.2]

theorem SameAt.unusable_iff {other : Files} {e : DocumentFile.Error}
    (h : SameAt files other path) : Unusable other path e ↔ Unusable files path e := by
  rw [Unusable, Unusable, h.2]

/-- **Files behind one that cannot be used are not looked at.** -/
theorem searchOnto_yields_of_sameAt {other : Files} {dirs : List String} {e : DocumentFile.Error}
    (h : (searchOnto files lower dirs).Yields (.error e) events)
    (hsame : ∀ dir ∈ dirs, SameAt files other (Path.join dir fileName)) (more : List String) :
    (searchOnto other lower (dirs ++ more)).Yields (.error e) events := by
  have hexisting : existing other dirs = existing files dirs := by
    refine List.filter_congr fun path hpath => ?_
    obtain ⟨dir, hdir, rfl⟩ := List.mem_map.1 hpath
    exact (hsame dir hdir).1
  have hat : ∀ path ∈ existing files dirs, SameAt files other path := by
    intro path hpath
    obtain ⟨dir, hdir, rfl⟩ := List.mem_map.1 (List.mem_filter.1 hpath).1
    exact hsame dir hdir
  rw [searchOnto_yields_iff, visits_error_iff] at h ⊢
  obtain ⟨before, path, after, hsplit, hbefore, hbad, hevents⟩ := h
  rw [hsplit] at hat
  refine ⟨before, path, after ++ existing other more, ?_, ?_, ?_, hevents⟩
  · rw [existing_append, hexisting, hsplit, List.append_assoc, List.cons_append]
  · intro earlier hearlier
    obtain ⟨layer, hlayer⟩ := hbefore earlier hearlier
    exact ⟨layer, (hat earlier (by simp [hearlier])).usable_iff.2 hlayer⟩
  · exact (hat path (by simp)).unusable_iff.2 hbad

/-- **What a search for settings comes to.**  It always has an answer, and directories without a
settings file do not count. It fails exactly if some file that is there cannot be used; the first
such file is the one that is told of, those before it were used in their order, and what stands
behind it does not matter. Otherwise all files were used in their order, and each single setting has
the value of the last file that sets it, or its default if none does. The settings are no more than
their single settings in the native style. -/
theorem search_settles (files : Files) (dirs : List String) :
    (∃ outcome events, (search files dirs).Yields outcome events) ∧
    (∀ outcome events, (search files dirs).Yields outcome events ↔
      (search files (dirs.filter fun dir => files.present (Path.join dir fileName))).Yields
        outcome events) ∧
    (∀ e events, (search files dirs).Yields (.error e) events ↔
      ∃ before path after, existing files dirs = before ++ path :: after ∧
        (∀ earlier ∈ before, ∃ layer, Usable files earlier layer) ∧ Unusable files path e ∧
        events = before.map loaded) ∧
    (∀ e events, (search files dirs).Yields (.error e) events →
      ∀ (other : Files) (more : List String),
        (∀ dir ∈ dirs, SameAt files other (Path.join dir fileName)) →
        (search other (dirs ++ more)).Yields (.error e) events) ∧
    ((∀ path ∈ existing files dirs, ∃ layer, Usable files path layer) →
      ∃ layer, (search files dirs).Yields (.ok layer) ((existing files dirs).map loaded) ∧
        (∀ {α : Type} (leaf : Leaf α),
          (∀ before path after value, existing files dirs = before ++ path :: after →
            leaf.SetBy files path value →
            (∀ later ∈ after, ¬ ∃ value, leaf.SetBy files later value) →
            leaf.inSettings layer.resolve = some value) ∧
          ((∀ path ∈ existing files dirs, ¬ ∃ value, leaf.SetBy files path value) →
            leaf.inSettings layer.resolve = leaf.inSettings .default)) ∧
        ∀ settings : Settings, settings.pathStyle = .native →
          (∀ {α : Type} (leaf : Leaf α),
            leaf.inSettings settings = leaf.inSettings layer.resolve) →
          settings = layer.resolve) := by
  refine ⟨?_, ?_, ?_, ?_, ?_⟩
  · obtain ⟨outcome, events, h⟩ := exists_visits files blank (existing files dirs)
    exact ⟨outcome, events, h.searchOnto_yields⟩
  · intro outcome events
    rw [search, search, searchOnto_yields_iff, searchOnto_yields_iff, existing_filter_present]
  · intro e events
    rw [search, searchOnto_yields_iff, visits_error_iff]
  · intro e events h other more hsame
    exact searchOnto_yields_of_sameAt h hsame more
  · intro husable
    obtain ⟨outcome, events, h⟩ := exists_visits files blank (existing files dirs)
    cases outcome with
    | error e =>
      -- There is no file to fail for.
      obtain ⟨before, path, after, hsplit, -, hbad, -⟩ := visits_error_iff.1 h
      obtain ⟨layer, hlayer⟩ := husable path (by simp [hsplit])
      exact absurd hbad hlayer.not_unusable
    | ok layer =>
      obtain ⟨-, rfl⟩ := h.events_of_ok
      refine ⟨layer, h.searchOnto_yields, fun leaf => ⟨?_, ?_⟩, ?_⟩
      · intro before path after value hsplit hset hunset
        have hlayer : leaf.inLayer layer = some value := by
          rw [hsplit] at h
          exact h.inLayer_of_setBy hset hunset
        rw [Leaf.inSettings_resolve, hlayer, Option.some_or]
      · intro hunset
        rw [Leaf.inSettings_resolve, h.inLayer_of_unset hunset, Leaf.inLayer_blank, Option.none_or]
      · intro settings hstyle hleaf
        exact Settings.eq_of_inSettings hstyle hleaf

end Layer

end RuntimeLauncher
