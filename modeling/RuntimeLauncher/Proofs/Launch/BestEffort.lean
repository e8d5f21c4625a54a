import RuntimeLauncher.Proofs.Launch.Marker
import RuntimeLauncher.Proofs.Outcome

/-!
# What never decides a launch

The proxy and the variables that are handed on are best-effort. Whatever the settings, the store and
the environment say about them, a launch is refused for the same reason as it is without them, or it
comes to a command with the same program, class path and main class. Of the environment, only the
variables count that the settings name.

## Main Definitions

* `Command.RunsAs` — two commands that differ in their properties alone
* `Launcher.ChecksAs` — two launchers that differ in what is best-effort alone
* `Launcher.FindsAs` — the stores of two launches name the same runtime, or none both

## Main Statements

* `Launcher.Settles.exists_endsAlike` — each way in which the checks can end, on the other side
* `Launcher.prepare_with_environment` — two environments that agree on the named variables
* `Launcher.best_effort_never_decides` — the checks of two launches that differ in best effort alone

## Design Notes

The proxy is looked for between the two fatal checks. That it always ends, and leaves the store as
it was, is what keeps it from the second check. Nothing is said about the two stores but what the
search for the runtime finds in them, so they may differ in every other cell, and in the version too
if it leads to the same program.
-/

namespace RuntimeLauncher

/-- Two commands run one class with one program and class path. Their properties may differ. -/
structure Command.RunsAs (command other : Command) : Prop where
  runtime : command.runtime = other.runtime
  classpath : command.classpath = other.classpath
  mainClass : command.mainClass = other.mainClass

namespace Launcher

/-- Two launchers look at the same files in the same places. Where they search the store, what they
hand on and which environment they have may differ. -/
structure ChecksAs (launcher other : Launcher) : Prop where
  files : launcher.files = other.files
  workDir : launcher.workDir = other.workDir
  pathStyle : launcher.settings.pathStyle = other.settings.pathStyle
  markers : launcher.settings.markers = other.settings.markers
  classpathDirs : launcher.settings.classpathDirs = other.settings.classpathDirs
  archiveExtension : launcher.settings.archiveExtension = other.settings.archiveExtension
  mainClass : launcher.settings.mainClass = other.settings.mainClass

/-- The searches for the runtime find the same path, or fail both, for whatever reasons. -/
def FindsAs (launcher : Launcher) (store : Store) (other : Launcher) (store' : Store) : Prop :=
  ∃ found found', (locateRuntime launcher.settings.runtime).Answers store found ∧
    (locateRuntime other.settings.runtime).Answers store' found' ∧
    found.toOption = found'.toOption

variable {launcher other : Launcher} {store store' : Store}

/-! ### What the checks look at -/

namespace ChecksAs

theorem place_eq (h : launcher.ChecksAs other) (path : String) :
    launcher.place path = other.place path := by
  rw [place, place, h.pathStyle, h.workDir]

theorem runnable_iff (h : launcher.ChecksAs other) {path : String} :
    launcher.Runnable path ↔ other.Runnable path := by
  rw [Runnable, Runnable, h.files, h.place_eq]

theorem installed_iff (h : launcher.ChecksAs other) : launcher.Installed ↔ other.Installed := by
  simp only [Installed, h.files, h.markers, h.place_eq]

theorem classpath_eq (h : launcher.ChecksAs other) : launcher.classpath = other.classpath := by
  rw [classpath, classpath, h.files, h.workDir, h.pathStyle, h.archiveExtension, h.classpathDirs]

end ChecksAs

/-- **The path that is checked is the same on both sides.** A search that fails leaves the empty
path, and it does not matter why it failed. -/
theorem FindsAs.exists_runtimePath (h : launcher.FindsAs store other store') :
    ∃ path, launcher.runtimePath.Answers store path ∧ other.runtimePath.Answers store' path := by
  obtain ⟨found, found', hfound, hfound', hsame⟩ := h
  cases found with
  | ok path =>
    cases found' with
    | ok path' =>
      obtain rfl : path = path' := Option.some_inj.1 hsame
      exact ⟨path, runtimePath_answers_iff.2 (.inl hfound),
        runtimePath_answers_iff.2 (.inl hfound')⟩
    | error e' => exact nomatch hsame
  | error e =>
    cases found' with
    | ok path' => exact nomatch hsame
    | error e' =>
      exact ⟨"", runtimePath_answers_iff.2 (.inr ⟨⟨e, hfound⟩, rfl⟩),
        runtimePath_answers_iff.2 (.inr ⟨⟨e', hfound'⟩, rfl⟩)⟩

/-! ### Two launches -/

/-- **Each way in which the checks can end, on the other side.** -/
theorem Settles.exists_endsAlike {outcome : Except LaunchError Command}
    (hchecks : launcher.ChecksAs other) (hfinds : launcher.FindsAs store other store')
    (h : launcher.Settles store outcome) :
    ∃ outcome', other.Settles store' outcome' ∧
      EndsAlike (· = ·) Command.RunsAs outcome outcome' := by
  obtain ⟨found, hfound, hfound'⟩ := hfinds.exists_runtimePath
  cases h with
  | runtimeNotFound path hpath hrun =>
    obtain rfl := hpath.unique hfound
    rw [hchecks.runnable_iff] at hrun
    exact ⟨_, .runtimeNotFound path hfound' hrun, .error rfl⟩
  | installNotFound path hpath hrun hinst =>
    obtain rfl := hpath.unique hfound
    rw [hchecks.runnable_iff] at hrun
    rw [hchecks.installed_iff] at hinst
    rw [hchecks.markers]
    exact ⟨_, .installNotFound path hfound' hrun hinst, .error rfl⟩
  | ready path hpath hrun hinst proxy hproxy classpath events hclasspath =>
    obtain rfl := hpath.unique hfound
    rw [hchecks.runnable_iff] at hrun
    rw [hchecks.installed_iff] at hinst
    rw [hchecks.classpath_eq] at hclasspath
    -- The other side has an answer for the proxy as well, whichever it is.
    obtain ⟨proxy', hproxy'⟩ := resolveProxy_restores other.settings.proxy store'
    exact ⟨_, .ready path hfound' hrun hinst proxy' hproxy' classpath events hclasspath,
      .ok ⟨rfl, rfl, hchecks.mainClass⟩⟩

/-- Only the variables count that the keys name. -/
theorem overrides_congr {environment environment' : Environment} {keys : List String}
    (h : ∀ key ∈ keys, environment key = environment' key) :
    environment.overrides keys = environment'.overrides keys :=
  List.filterMap_congr fun key hkey => by rw [h key hkey]

/-- **Two environments that agree on the named variables** make one launcher, down to the log. -/
theorem prepare_with_environment {environment : Environment}
    (h : ∀ key ∈ launcher.settings.overrideKeys, environment key = launcher.environment key) :
    prepare { launcher with environment } = launcher.prepare := by
  have hoverrides := overrides_congr h
  unfold prepare
  simp only [hoverrides]
  rfl

/-- **Best-effort inputs never decide a launch.**  Two launchers look at the same files in the same
places, and the searches for the runtime find the same path on both sides, or fail on both. Then the
checks fail on both sides with the same error, or they come to two commands that run one class with
one program and class path, whatever is said of the proxy and the variables.  An environment that
gives the same values to the variables that the settings name makes the same launcher. -/
theorem best_effort_never_decides (launcher : Launcher) (store : Store) :
    (∀ other store', launcher.ChecksAs other → launcher.FindsAs store other store' →
      ∃ outcome outcome', launcher.prepare.Answers store outcome ∧
        other.prepare.Answers store' outcome' ∧
        EndsAlike (· = ·) Command.RunsAs outcome outcome') ∧
    ∀ environment : Environment,
      (∀ key ∈ launcher.settings.overrideKeys, environment key = launcher.environment key) →
      prepare { launcher with environment } = launcher.prepare := by
  constructor
  · intro other store' hchecks hfinds
    obtain ⟨outcome, hsettles⟩ := exists_settles launcher store
    obtain ⟨outcome', hsettles', halike⟩ := hsettles.exists_endsAlike hchecks hfinds
    exact ⟨outcome, outcome', hsettles.answers, hsettles'.answers, halike⟩
  · intro environment h
    exact prepare_with_environment h

/-! ### An installation with and without a proxy -/

/-- A launcher that hands nothing on. -/
def bare : Launcher := inInstallation (.file (.text "") false)

/-- The same with a proxy, and with a variable that the settings name twice. -/
def laden : Launcher :=
  { bare with
    settings :=
      { Settings.default with
        proxy := ⟨.localMachine, "net", "proxy", "p"⟩
        overrideKeys := ["A", "A"] }
    environment := fun name => if name = "A" then some "x" else none }

/-- The store of the installation with a proxy in it. -/
def storeWithProxy : Store :=
  storeOfInstallation.insert .localMachine "net" "proxy" (.string "host")

/-- An environment with a variable that the settings do not name. -/
def searchPath : Environment := fun name => if name = "PATH" then some "/bin" else none

theorem checksAs_laden : bare.ChecksAs laden := ⟨rfl, rfl, rfl, rfl, rfl, rfl, rfl⟩

theorem findsAs_laden : bare.FindsAs storeOfInstallation laden storeWithProxy := by
  have hlocates : Locates RuntimeSettings.default storeWithProxy (.ok "/jre/bin/java") :=
    locates_ok_iff_tells.2 ⟨"1.8", ⟨by rfl, by decide⟩, "/jre", ⟨by rfl, by decide⟩, rfl⟩
  exact ⟨_, _, locates_storeOfInstallation.answers, hlocates.answers, rfl⟩

theorem exists_command_bare :
    ∃ command, bare.prepare.Answers storeOfInstallation (.ok command) := by
  have hleads : (installation (.file (.text "") false)).Leads FileTree.maxLinks [.text "lib"]
      [.down (.text "jxtashell.jar")] [.text "lib", .text "jxtashell.jar"] :=
    .down rfl (by decide) rfl nofun (.done _ _)
  obtain ⟨command, hcommand, -⟩ := exists_command_inInstallation (stat_marker hleads rfl)
  exact ⟨command, hcommand⟩

/-- One launch has a proxy and hands variables on, and the other does not. They run the same. -/
theorem laden_launch_runs_as_bare :
    (bare.ChecksAs laden ∧ bare.FindsAs storeOfInstallation laden storeWithProxy) ∧
    (∃ command command', bare.prepare.Answers storeOfInstallation (.ok command) ∧
      laden.prepare.Answers storeWithProxy (.ok command') ∧ command.RunsAs command' ∧
      command.proxy = none ∧ command.overrides = [] ∧
      command'.proxy = some ⟨"p", "host"⟩ ∧ command'.overrides = [⟨"A", "x"⟩, ⟨"A", "x"⟩]) ∧
    (∀ key ∈ bare.settings.overrideKeys, searchPath key = bare.environment key) ∧
      prepare { bare with environment := searchPath } = bare.prepare := by
  have hsearchPath : ∀ key ∈ bare.settings.overrideKeys, searchPath key = bare.environment key := by
    decide
  obtain ⟨hlaunch, henvironment⟩ := best_effort_never_decides bare storeOfInstallation
  obtain ⟨outcome, outcome', hbare, hladen, halike⟩ :=
    hlaunch laden storeWithProxy checksAs_laden findsAs_laden
  obtain ⟨command, hcommand⟩ := exists_command_bare
  obtain rfl := hbare.unique hcommand
  obtain ⟨command', rfl, hruns⟩ := halike.exists_ok
  have hwithout := settles_ok_iff.1 (prepare_answers_iff_settles.1 hbare)
  have hwith := settles_ok_iff.1 (prepare_answers_iff_settles.1 hladen)
  have hnone : (resolveProxy bare.settings.proxy).Answers storeOfInstallation none :=
    resolveProxy_answers_none fun address htells => by cases htells.1
  have hhost : (resolveProxy laden.settings.proxy).Answers storeWithProxy (some "host") :=
    resolveProxy_answers_some ⟨by rfl, by decide⟩
  have hproxy : command.proxy = none := by
    refine Option.eq_none_iff_forall_ne_some.2 fun property hproperty => ?_
    obtain ⟨address, haddress, -⟩ := (hwithout.proxy property).1 hproperty
    exact nomatch haddress.unique hnone
  refine ⟨⟨checksAs_laden, findsAs_laden⟩, ⟨command, command', hbare, hladen, hruns, hproxy,
    hwithout.overrides, (hwith.proxy _).2 ⟨"host", hhost, rfl⟩, hwith.overrides⟩, hsearchPath,
    henvironment searchPath hsearchPath⟩

end Launcher

end RuntimeLauncher
