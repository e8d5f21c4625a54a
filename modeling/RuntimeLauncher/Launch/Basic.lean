import RuntimeLauncher.Classpath
import RuntimeLauncher.Command
import RuntimeLauncher.Discovery
import RuntimeLauncher.Launch.Error

/-!
# Launching

A launch first makes all checks and builds the command. Then it shows the command to the user and
hands the process over.

## Main Definitions

* `Launcher` — what a launch depends on
* `Launcher.prepare` — the checks and the command
* `Outlet` — what a launch acts on: a stream for the user and a way to hand the process over
* `Launcher.announce`, `Launcher.handOver` — the two steps after the checks
* `Launcher.run` — the whole launch

## Design Notes

The runtime's program is checked before the markers. Proxy, overrides and class path are
best-effort: they never stop a launch. Showing the command is best-effort as well: if the stream
fails, the log says so and the launch goes on.

An outlet acts on a state of its own choice, so that one definition serves for a run on a real
system and for one that is only recorded. What `replace` yields is what becomes of the process.
-/

namespace RuntimeLauncher

/-- What a launch depends on, apart from the store. -/
structure Launcher where
  settings : Settings
  environment : Environment
  files : Files
  workDir : String

namespace Launcher

/-- The speaker of this module in the log. -/
def logTarget : String := "jxta_launcher::launch"

/-- The place of a path of the settings. -/
def place (launcher : Launcher) (path : String) : String :=
  launcher.settings.pathStyle.resolve launcher.workDir path

/-- The path of the runtime's program. It is empty where the store names none. -/
def runtimePath (launcher : Launcher) : Session String := do
  match ← locateRuntime launcher.settings.runtime with
  | .ok path => pure path
  | .error e =>
    Session.log (Logged.warn logTarget e.message)
    pure ""

/-- The program is there. -/
def hasProgram (launcher : Launcher) (path : String) : Bool :=
  !path.isEmpty && launcher.files.isFile (launcher.place path)

/-- One of the markers is there. -/
def hasMarker (launcher : Launcher) : Bool :=
  launcher.settings.markers.any fun marker => launcher.files.present (launcher.place marker)

/-- The class path for the settings. -/
def classpath (launcher : Launcher) : Logged Classpath :=
  Classpath.build launcher.files launcher.workDir launcher.settings.pathStyle
    launcher.settings.archiveExtension launcher.settings.classpathDirs

/-- Makes all checks and builds the command. -/
def prepare (launcher : Launcher) : Session (Except LaunchError Command) := do
  let settings := launcher.settings
  let runtime ← launcher.runtimePath
  if !launcher.hasProgram runtime then return .error (.runtimeNotFound runtime)
  let proxy ← resolveProxy settings.proxy
  if !launcher.hasMarker then return .error (.installNotFound settings.markers)
  let classpath ← StateT.lift launcher.classpath
  return .ok
    { runtime
      proxy := proxy.map fun address => ⟨settings.proxy.property, address⟩
      overrides := launcher.environment.overrides settings.overrideKeys
      classpath := classpath.text
      mainClass := settings.mainClass }

end Launcher

/-! ### Handing over -/

/-- What a launch acts on. -/
structure Outlet (σ ρ : Type) where
  /-- Writes a text for the user. -/
  write : String → StateM σ (Except Failure Unit)
  /-- Makes sure that all that was written has arrived. -/
  flush : StateM σ (Except Failure Unit)
  /-- Hands the process over to a command. -/
  replace : Command → StateM σ (Except ExecError ρ)

namespace Outlet

variable {σ ρ : Type}

/-- Writes a line. The first failure ends the attempt. -/
def echo (outlet : Outlet σ ρ) (line : String) : StateM σ (Except Failure Unit) := do
  match ← outlet.write line with
  | .error e => pure (.error e)
  | .ok () =>
    match ← outlet.write "\n" with
    | .error e => pure (.error e)
    | .ok () => outlet.flush

end Outlet

namespace Launcher

variable {σ ρ : Type}

/-- A step on the state of an outlet that the log does not tell of. -/
def quietly {α : Type} (step : StateM σ α) : StateT σ Logged α := fun state =>
  pure (step.run state)

/-- Shows a command to the user and in the log. -/
def announce (outlet : Outlet σ ρ) (command : Command) : StateT σ Logged Unit := do
  match ← quietly (outlet.echo command.echoLine) with
  | .ok () => pure ()
  | .error e =>
    StateT.lift <| Logged.warn logTarget ("Failed to echo launch command: " ++ e.message)
  for (part, i) in command.parts.zipIdx do
    StateT.lift <| Logged.debug logTarget ("argv[" ++ toString i ++ "] = " ++ part)

/-- Hands the process over to a command. -/
def handOver (outlet : Outlet σ ρ) (command : Command) : StateM σ (Except LaunchError ρ) := do
  match ← outlet.replace command with
  | .error e => pure (.error (.exec e))
  | .ok result => pure (.ok result)

/-- Makes all checks, shows the command and hands the process over. -/
def run (launcher : Launcher) (outlet : Outlet σ ρ) : StateT σ Session (Except LaunchError ρ) := do
  match ← StateT.lift launcher.prepare with
  | .error e => pure (.error e)
  | .ok command =>
    let rest : StateT σ Logged (Except LaunchError ρ) := do
      announce outlet command
      quietly (handOver outlet command)
    fun state => Session.log (rest.run state)

end Launcher

end RuntimeLauncher
