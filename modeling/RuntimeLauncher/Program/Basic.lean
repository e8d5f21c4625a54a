import RuntimeLauncher.Launch.Basic
import RuntimeLauncher.Program.Ending
import RuntimeLauncher.Store.File

/-!
# The program

The program reads its settings, asks for the working directory, loads the store, and launches. If
one of these fails it tells the user on the error stream and ends with a code.

## Main Definitions

* `Program.prepare` — the stages up to the command, in their order
* `Program.run` — the whole program

## Design Notes

The log and the user's error text share the error stream; the outlet's stream carries the command
and nothing else. An event that is to be shown on a stream that fails crashes the program on the
spot. So the stages before the command, the showing of the command and the handing over are looked
at one after another, and each comes about only if the ones before it did not crash.
-/

namespace RuntimeLauncher

namespace Program

/-- The speaker of this module in the log. -/
def logTarget : String := "jxta_launcher"

/-! ### Stages -/

/-- Reads the settings. -/
def readSettings (host : Host) : Logged (Except LaunchError Settings) := do
  match ← Layer.search host.files host.settingsDirs with
  | .error e => pure (.error (.configuration e.chain))
  | .ok layer => pure (.ok layer.resolve)

/-- Asks for the working directory. -/
def readWorkDir (host : Host) : Except LaunchError String :=
  match host.workDir with
  | .error failure => .error (.configuration ["Failed to read working directory", failure.message])
  | .ok dir => .ok dir

/-- Loads the store. Without any place for one it is empty. -/
def readStore (host : Host) (settings : Settings) : Logged (Except LaunchError Store) := do
  match host.storeFile? settings with
  | none => pure (.ok Store.empty)
  | some path =>
    match ← Store.load host.files path with
    | .error e => pure (.error (.configuration e.chain))
    | .ok store => pure (.ok store)

/-- The launcher for settings and a working directory. -/
def launcher (host : Host) (settings : Settings) (workDir : String) : Launcher where
  settings := settings
  environment := host.environment
  files := host.files
  workDir := workDir

/-- All stages up to the command, in their order. The first one that fails decides. -/
def prepare (host : Host) : Logged (Except LaunchError Command) := do
  Logged.debug logTarget ("jxta-launcher v" ++ host.version ++ " starting")
  match ← readSettings host with
  | .error e => pure (.error e)
  | .ok settings =>
    match readWorkDir host with
    | .error e => pure (.error e)
    | .ok workDir =>
      match ← readStore host settings with
      | .error e => pure (.error e)
      | .ok store =>
        let (result, _) ← (launcher host settings workDir).prepare.run store
        pure result

/-! ### The end of the program -/

/-- The lines for those events that the user wants to see. -/
def logText (host : Host) (filter : Log.Filter) (events : List Log.Event) : String :=
  String.join ((events.filter filter.shows).map (Log.line host.logTime))

variable {σ ρ : Type}

/-- Goes on after some events, or crashes if one of them was to be shown on a stream that fails. -/
def goOn (host : Host) (filter : Log.Filter) (events : List Log.Event)
    (next : StateM σ (Outcome ρ)) : StateM σ (Outcome ρ) :=
  match host.brokenErrors with
  | some failure =>
    if events.any filter.shows then pure (crash host (.errorStream failure filter)) else next
  | none => next

/-- The end of a program that failed. -/
def fail (host : Host) (filter : Log.Filter) (events : List Log.Event) (e : LaunchError) :
    Outcome ρ :=
  let last : Log.Event := ⟨.debug, logTarget, "launch failed: " ++ e.detail⟩
  match host.brokenErrors with
  | some failure => crash host (.errorStream failure filter)
  | none => ⟨.exited e.exitCode, logText host filter (events ++ [last]) ++ e.report⟩

/-- The whole program with what it shows of the log. -/
def runWith (host : Host) (filter : Log.Filter) (outlet : Outlet σ ρ) : StateM σ (Outcome ρ) :=
  let (prepared, before) := (prepare host).collect
  goOn host filter before do
    match prepared with
    | .error e => pure (fail host filter before e)
    | .ok command =>
      let shown ← fun state =>
        let (((), state), events) := ((Launcher.announce outlet command).run state).collect
        (events, state)
      goOn host filter shown do
        match ← Launcher.handOver outlet command with
        | .error e => pure (fail host filter (before ++ shown) e)
        | .ok result => pure ⟨.replaced result, logText host filter (before ++ shown)⟩

/-- The whole program. -/
def run (host : Host) (outlet : Outlet σ ρ) : StateM σ (Outcome ρ) :=
  match host.logFilter with
  | .error slip => pure (crash host (.logRules slip))
  | .ok filter => runWith host filter outlet

end Program

end RuntimeLauncher
