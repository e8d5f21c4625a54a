import RuntimeLauncher.Program.Basic

/-!
# What the program will ask

On a real system files and variables are looked up before the program decides anything. This module
says which ones.

## Main Definitions

* `Host.asksTexts` — the paths of the files that the program reads
* `Host.asksFiles` — the paths that it looks at without reading
* `Host.asksVariables` — the variables that it reads

## Design Notes

Which paths matter depends on what stands in files. So the answer is given for what is known of the
host, and it is complete once every path in it has been looked at. Settings, store and launch are
three rounds at most.

Only settings and the store are read. A runtime is looked at and not read, since reading from a pipe
may never end.
-/

namespace RuntimeLauncher

/-- The paths that a launch looks at. -/
def Launcher.asksFiles (launcher : Launcher) (store : Store) : List String :=
  let settings := launcher.settings
  let ((runtime, _), _) := (launcher.runtimePath.run store).collect
  (runtime :: settings.markers ++ settings.classpathDirs).map launcher.place

namespace Host

/-- The settings, as far as they are known. -/
def knownSettings (host : Host) : Settings :=
  ((Program.readSettings host).collect.1.toOption).getD .default

/-- The paths of the files that the program reads. -/
def asksTexts (host : Host) : List String :=
  host.settingsDirs.map (fun dir => Path.join dir Layer.fileName) ++
    (host.storeFile? host.knownSettings).toList

/-- The paths that the program looks at without reading what stands there. -/
def asksFiles (host : Host) : List String :=
  let settings := host.knownSettings
  let store := ((Program.readStore host settings).collect.1.toOption).getD .empty
  match host.workDir with
  | .ok dir => (Program.launcher host settings dir).asksFiles store
  | .error _ => []

/-- The variables that the program reads. -/
def asksVariables (host : Host) : List String :=
  ["HOME", "XDG_CONFIG_HOME", "TMPDIR", "RUST_LOG"] ++ host.knownSettings.overrideKeys

/-- How often the question has to be put until the answer is complete. -/
def rounds : Nat := 3

end Host

end RuntimeLauncher
