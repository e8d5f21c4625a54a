import RuntimeLauncher.Log
import RuntimeLauncher.Program.Host

/-!
# How the program ends

## Main Definitions

* `Program.Ending`, `Program.Outcome` — the end of the program, and what it leaves behind
* `Program.CrashCause`, `Program.CrashReport` — why the program crashes, and what it leaves then
* `Program.crash` — the outcome of a crash

## Design Notes

After a crash the program logs that it has crashed. If the user wants to see that and the error
stream fails again, the system takes the process down at once, and there is no exit code. The report
is written before that.
-/

namespace RuntimeLauncher.Program

/-- The report of a crash. -/
structure CrashReport where
  dir : String
  name : String
  text : String
deriving DecidableEq

/-- How the program ends. -/
inductive Ending (ρ : Type) where
  /-- The process was handed over. -/
  | replaced (result : ρ)
  | exited (code : Int)
  /-- The program crashed. If `aborted` holds it has no exit code. -/
  | crashed (report : CrashReport) (aborted : Bool)

/-- What the program leaves behind, apart from what it did to its outlet. -/
structure Outcome (ρ : Type) where
  ending : Ending ρ
  /-- What was written to the error stream. -/
  errors : String

/-- The exit code after a crash. -/
def crashCode : Int := 101

/-- Why the program crashes. -/
inductive CrashCause where
  /-- The rules for the log cannot be taken apart. Nothing is logged yet. -/
  | logRules (slip : Text.Slip)
  /-- The error stream fails when it is needed. -/
  | errorStream (failure : Failure) (filter : Log.Filter)

namespace CrashCause

/-- The wording of a cause. -/
def message : CrashCause → String
  | .logRules slip => slip.message
  | .errorStream failure _ => "failed printing to stderr: " ++ failure.message

/-- The event that tells of a crash. -/
def event (report : CrashReport) : Log.Event :=
  ⟨.error, "jxta_launcher::crash_handler",
    "JXTA launcher crashed, report written to " ++ Path.join report.dir report.name⟩

/-- The program cannot log its crash on the stream that fails. -/
def isFinal (cause : CrashCause) (report : CrashReport) : Bool :=
  match cause with
  | .logRules _ => false
  | .errorStream _ filter => filter.shows (event report)

end CrashCause

/-- The report of a crash. -/
def CrashReport.of (host : Host) (cause : CrashCause) : CrashReport :=
  let workDir :=
    match host.workDir with
    | .ok dir => "Working directory: " ++ dir ++ "\n"
    | .error _ => ""
  { dir := host.crashDir
    name := "crash_report_" ++ host.crashTime ++ ".log"
    text :=
      "JXTA launcher v" ++ host.version ++ " crash report\n" ++ host.crashTime ++ "\n\n" ++
        "Cause: " ++ cause.message ++ "\n" ++ "Location: " ++ host.crashSite ++ "\n\n" ++
        workDir }

/-- The outcome of a crash. -/
def crash {ρ : Type} (host : Host) (cause : CrashCause) : Outcome ρ :=
  let report := CrashReport.of host cause
  ⟨.crashed report (cause.isFinal report), ""⟩

end RuntimeLauncher.Program
