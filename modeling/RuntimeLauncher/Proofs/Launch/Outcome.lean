import RuntimeLauncher.Launch.Basic
import RuntimeLauncher.Proofs.Classpath
import RuntimeLauncher.Proofs.Discovery

/-!
# What the checks of a launch come to

Two of the checks are fatal, and they are made in a fixed order: first the runtime's program, then
the markers of the installation. Proxy, overrides and class path never stop a launch. That the store
names no runtime is not fatal by itself: the check of the program fails on the empty path.

## Main Definitions

* `Launcher.Runnable` — the runtime's path leads to a regular file
* `Launcher.Installed` — one of the markers is there
* `Launcher.Commands` — the command that a launch comes to when both fatal checks pass
* `Launcher.Settles` — the three ways in which the checks can end, as rules

## Main Statements

* `Launcher.prepare_answers_iff_settles` — the checks end as the rules say, on every store
* `Launcher.prepare_outcomes` — the three ways in terms of the parts that are checked

## Design Notes

The rules only add up to a description of `prepare` since a session has one answer at most. So it
is enough to follow `prepare` along each rule, and to see that one of the rules always applies.
-/

namespace RuntimeLauncher.Launcher

/-- The path is not empty, and at the end of all links a regular file stands there. -/
def Runnable (launcher : Launcher) (path : String) : Prop :=
  path ≠ "" ∧ launcher.files.stat (launcher.place path) = .ok .file

/-- Something stands at the place of one of the markers. -/
def Installed (launcher : Launcher) : Prop :=
  ∃ marker ∈ launcher.settings.markers, ∃ kind,
    launcher.files.stat (launcher.place marker) = .ok kind

/-- The command that a launch comes to when both fatal checks pass. -/
structure Commands (launcher : Launcher) (store : Store) (command : Command) : Prop where
  /-- The runtime is spelled as it was found. -/
  runtime : (locateRuntime launcher.settings.runtime).Answers store (.ok command.runtime)
  runnable : launcher.Runnable command.runtime
  installed : launcher.Installed
  /-- There is a property for the proxy exactly if there is a proxy. -/
  proxy : ∀ property, command.proxy = some property ↔ ∃ address,
    (resolveProxy launcher.settings.proxy).Answers store (some address) ∧
      property = ⟨launcher.settings.proxy.property, address⟩
  /-- The variables that are set, as often as the settings name them and in their order. -/
  overrides : command.overrides = launcher.settings.overrideKeys.flatMap fun key =>
    (launcher.environment key).toList.map (Property.mk key)
  classpath : ∃ classpath events,
    (Classpath.build launcher.files launcher.workDir launcher.settings.pathStyle
      launcher.settings.archiveExtension launcher.settings.classpathDirs).Yields classpath events ∧
    command.classpath = classpath.text
  mainClass : command.mainClass = launcher.settings.mainClass

variable {launcher : Launcher} {store : Store}

theorem hasProgram_iff {path : String} : launcher.hasProgram path = true ↔
    launcher.Runnable path := by
  rw [hasProgram, Bool.and_eq_true, Runnable]
  refine and_congr (by simp) ?_
  unfold Files.isFile
  split <;> simp_all

theorem present_iff {files : Files} {path : String} :
    files.present path = true ↔ ∃ kind, files.stat path = .ok kind := by
  unfold Files.present
  split <;> simp_all

theorem hasMarker_iff : launcher.hasMarker = true ↔ launcher.Installed := by
  simp only [hasMarker, List.any_eq_true, present_iff, Installed]

/-! ### The parts that never stop a launch -/

/-- The path that is checked is the one that was found, or empty where none was. -/
theorem runtimePath_answers_iff {path : String} : launcher.runtimePath.Answers store path ↔
    (locateRuntime launcher.settings.runtime).Answers store (.ok path) ∨
      (∃ e, (locateRuntime launcher.settings.runtime).Answers store (.error e)) ∧ path = "" := by
  have found {path : String}
      (h : (locateRuntime launcher.settings.runtime).Answers store (.ok path)) :
      launcher.runtimePath.Answers store path := h.bind (.pure path)
  have missing {e : LocateError}
      (h : (locateRuntime launcher.settings.runtime).Answers store (.error e)) :
      launcher.runtimePath.Answers store "" :=
    h.bind ((Session.Answers.log (Logged.yields_emit _)).bind (.pure ""))
  constructor
  · -- Something answers on the store, and the path is settled by it.
    intro h
    obtain ⟨located, hlocated⟩ := locateRuntime_restores launcher.settings.runtime store
    cases located with
    | ok path' =>
      obtain rfl : path = path' := h.unique (found hlocated)
      exact .inl hlocated
    | error e => exact .inr ⟨⟨e, hlocated⟩, h.unique (missing hlocated)⟩
  · rintro (h | ⟨⟨e, h⟩, rfl⟩)
    · exact found h
    · exact missing h

theorem exists_runtimePath_answers (launcher : Launcher) (store : Store) :
    ∃ path, launcher.runtimePath.Answers store path := by
  obtain ⟨located, h⟩ := locateRuntime_restores launcher.settings.runtime store
  cases located with
  | ok path => exact ⟨path, runtimePath_answers_iff.2 (.inl h)⟩
  | error e => exact ⟨"", runtimePath_answers_iff.2 (.inr ⟨⟨e, h⟩, rfl⟩)⟩

/-! ### The checks -/

/-- How the checks of a launch end. -/
inductive Settles (launcher : Launcher) (store : Store) : Except LaunchError Command → Prop where
  | runtimeNotFound (path : String) (hpath : launcher.runtimePath.Answers store path)
      (h : ¬ launcher.Runnable path) : Settles launcher store (.error (.runtimeNotFound path))
  | installNotFound (path : String) (hpath : launcher.runtimePath.Answers store path)
      (hrun : launcher.Runnable path) (h : ¬ launcher.Installed) :
      Settles launcher store (.error (.installNotFound launcher.settings.markers))
  | ready (path : String) (hpath : launcher.runtimePath.Answers store path)
      (hrun : launcher.Runnable path) (hinst : launcher.Installed) (proxy : Option String)
      (hproxy : (resolveProxy launcher.settings.proxy).Answers store proxy)
      (classpath : Classpath) (events : List Log.Event)
      (hclasspath : launcher.classpath.Yields classpath events) :
      Settles launcher store (.ok
        { runtime := path
          proxy := proxy.map fun address => ⟨launcher.settings.proxy.property, address⟩
          overrides := launcher.environment.overrides launcher.settings.overrideKeys
          classpath := classpath.text
          mainClass := launcher.settings.mainClass })

/-- Following `prepare` along each rule. -/
theorem Settles.answers {outcome : Except LaunchError Command}
    (h : launcher.Settles store outcome) : launcher.prepare.Answers store outcome := by
  cases h with
  | runtimeNotFound path hpath h =>
    have hprogram : launcher.hasProgram path = false :=
      Bool.eq_false_iff.2 (mt hasProgram_iff.1 h)
    refine hpath.bind ?_
    simp only [hprogram]
    exact .pure _
  | installNotFound path hpath hrun h =>
    have hmarker : launcher.hasMarker = false :=
      Bool.eq_false_iff.2 (mt hasMarker_iff.1 h)
    -- The proxy is looked for before the markers, so it has to be known that this ends.
    obtain ⟨proxy, hproxy⟩ := resolveProxy_restores launcher.settings.proxy store
    refine hpath.bind ?_
    simp only [hasProgram_iff.2 hrun]
    refine hproxy.bind ?_
    simp only [hmarker]
    exact .pure _
  | ready path hpath hrun hinst proxy hproxy classpath events hclasspath =>
    refine hpath.bind ?_
    simp only [hasProgram_iff.2 hrun]
    refine hproxy.bind ?_
    simp only [hasMarker_iff.2 hinst]
    exact (Session.Answers.log hclasspath).bind (.pure _)

/-- On every store one of the rules applies. -/
theorem exists_settles (launcher : Launcher) (store : Store) :
    ∃ outcome, launcher.Settles store outcome := by
  obtain ⟨path, hpath⟩ := exists_runtimePath_answers launcher store
  obtain ⟨proxy, hproxy⟩ := resolveProxy_restores launcher.settings.proxy store
  obtain ⟨events, hclasspath⟩ := Classpath.build_yields launcher.files launcher.workDir
    launcher.settings.pathStyle launcher.settings.archiveExtension launcher.settings.classpathDirs
  by_cases hrun : launcher.Runnable path
  · by_cases hinst : launcher.Installed
    · exact ⟨_, .ready path hpath hrun hinst proxy hproxy _ events hclasspath⟩
    · exact ⟨_, .installNotFound path hpath hrun hinst⟩
  · exact ⟨_, .runtimeNotFound path hpath hrun⟩

/-- **The checks end as the rules say, on every store.** -/
theorem prepare_answers_iff_settles {outcome : Except LaunchError Command} :
    launcher.prepare.Answers store outcome ↔ launcher.Settles store outcome := by
  constructor
  · intro h
    obtain ⟨outcome', hsettles⟩ := exists_settles launcher store
    obtain rfl : outcome = outcome' := h.unique hsettles.answers
    exact hsettles
  · exact Settles.answers

/-- The overrides are the properties of those of the keys that are set, as often as the settings
name them and in their order. -/
theorem overrides_eq_flatMap (environment : Environment) (keys : List String) :
    environment.overrides keys =
      keys.flatMap fun key => (environment key).toList.map (Property.mk key) := by
  induction keys with
  | nil => rfl
  | cons key rest ih =>
    rw [Environment.overrides] at ih ⊢
    rw [List.filterMap_cons, List.flatMap_cons, ih]
    cases environment key <;> rfl

/-- A path that is runnable is not empty, so it was found and does not stand for a failure. -/
theorem Runnable.answers_iff {path : String} (h : launcher.Runnable path) :
    launcher.runtimePath.Answers store path ↔
      (locateRuntime launcher.settings.runtime).Answers store (.ok path) := by
  rw [runtimePath_answers_iff]
  exact or_iff_left fun hmissing => h.1 hmissing.2

theorem settles_runtimeNotFound_iff {path : String} :
    launcher.Settles store (.error (.runtimeNotFound path)) ↔
      ((∃ e, (locateRuntime launcher.settings.runtime).Answers store (.error e)) ∧ path = "") ∨
        ((locateRuntime launcher.settings.runtime).Answers store (.ok path) ∧
          ¬ launcher.Runnable path) := by
  constructor
  · intro h
    cases h with
    | runtimeNotFound path hpath h =>
      obtain hok | hmissing := runtimePath_answers_iff.1 hpath
      · exact .inr ⟨hok, h⟩
      · exact .inl hmissing
  · rintro (⟨he, rfl⟩ | ⟨hok, h⟩)
    · exact .runtimeNotFound "" (runtimePath_answers_iff.2 (.inr ⟨he, rfl⟩)) fun hrun => hrun.1 rfl
    · exact .runtimeNotFound path (runtimePath_answers_iff.2 (.inl hok)) h

theorem settles_installNotFound_iff {markers : List String} :
    launcher.Settles store (.error (.installNotFound markers)) ↔
      (∃ path, (locateRuntime launcher.settings.runtime).Answers store (.ok path) ∧
        launcher.Runnable path) ∧
      ¬ launcher.Installed ∧ markers = launcher.settings.markers := by
  constructor
  · intro h
    cases h with
    | installNotFound path hpath hrun h => exact ⟨⟨path, hrun.answers_iff.1 hpath, hrun⟩, h, rfl⟩
  · rintro ⟨⟨path, hok, hrun⟩, h, rfl⟩
    exact .installNotFound path (hrun.answers_iff.2 hok) hrun h

theorem settles_ok_iff {command : Command} :
    launcher.Settles store (.ok command) ↔ launcher.Commands store command := by
  have hdetermined {proxy : Option String}
      (hproxy : (resolveProxy launcher.settings.proxy).Answers store proxy) (property : Property) :
      (proxy.map fun address => ⟨launcher.settings.proxy.property, address⟩) = some property ↔
        ∃ address, (resolveProxy launcher.settings.proxy).Answers store (some address) ∧
          property = ⟨launcher.settings.proxy.property, address⟩ := by
    rw [Option.map_eq_some_iff]
    refine exists_congr fun address => and_congr ⟨?_, hproxy.unique⟩ eq_comm
    rintro rfl
    exact hproxy
  constructor
  · intro h
    cases h with
    | ready path hpath hrun hinst proxy hproxy classpath events hclasspath =>
      exact ⟨hrun.answers_iff.1 hpath, hrun, hinst, hdetermined hproxy, overrides_eq_flatMap _ _,
        ⟨classpath, events, hclasspath, rfl⟩, rfl⟩
  · rintro ⟨hok, hrun, hinst, hproxy, hoverrides, ⟨classpath, events, hclasspath, htext⟩, hmain⟩
    -- The command's proxy is described by the answer there is, so it is made of that answer.
    obtain ⟨proxy, hresolve⟩ := resolveProxy_restores launcher.settings.proxy store
    have hsame : command.proxy =
        proxy.map fun address => ⟨launcher.settings.proxy.property, address⟩ :=
      Option.ext fun property => (hproxy property).trans (hdetermined hresolve property).symm
    obtain ⟨runtime, _, _, _, _⟩ := command
    subst hsame hoverrides htext hmain
    rw [← overrides_eq_flatMap]
    exact .ready runtime (hrun.answers_iff.2 hok) hrun hinst proxy hresolve classpath events
      hclasspath

/-- **The outcome of the checks, and which failure takes precedence.** On every store, the checks
have one answer and leave the store as it was. The runtime is reported missing exactly if the store
names none, and then with an empty path, or if what it names is not runnable. Otherwise, the
installation is reported missing exactly if no marker is there, as it is for an empty row of them.
Otherwise there is a command. -/
theorem prepare_outcomes (launcher : Launcher) (store : Store) :
    (∃ outcome, (∀ other, launcher.prepare.Answers store other ↔ other = outcome) ∧
      ((∃ path, outcome = .error (.runtimeNotFound path)) ∨
        (∃ markers, outcome = .error (.installNotFound markers)) ∨
        ∃ command, outcome = .ok command)) ∧
    (∀ path, launcher.prepare.Answers store (.error (.runtimeNotFound path)) ↔
      ((∃ e, (locateRuntime launcher.settings.runtime).Answers store (.error e)) ∧ path = "") ∨
        ((locateRuntime launcher.settings.runtime).Answers store (.ok path) ∧
          ¬ launcher.Runnable path)) ∧
    (∀ markers, launcher.prepare.Answers store (.error (.installNotFound markers)) ↔
      (∃ path, (locateRuntime launcher.settings.runtime).Answers store (.ok path) ∧
        launcher.Runnable path) ∧
      ¬ launcher.Installed ∧ markers = launcher.settings.markers) ∧
    ∀ command, launcher.prepare.Answers store (.ok command) ↔ launcher.Commands store command := by
  simp only [prepare_answers_iff_settles]
  refine ⟨?_, fun path => settles_runtimeNotFound_iff, fun markers => settles_installNotFound_iff,
    fun command => settles_ok_iff⟩
  obtain ⟨outcome, h⟩ := exists_settles launcher store
  refine ⟨outcome, fun other => ⟨fun hother => hother.answers.unique h.answers, ?_⟩, ?_⟩
  · rintro rfl
    exact h
  · cases h with
    | runtimeNotFound path => exact .inl ⟨path, rfl⟩
    | installNotFound => exact .inr (.inl ⟨_, rfl⟩)
    | ready => exact .inr (.inr ⟨_, rfl⟩)

end RuntimeLauncher.Launcher
