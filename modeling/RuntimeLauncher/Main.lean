import RuntimeLauncher.Files.View
import RuntimeLauncher.Launch.Rehearsal
import RuntimeLauncher.Program.Questions

/-!
# The command line

The command line looks at what the program asks for, runs the program on it, and writes what the
program wrote. It takes no arguments.

## Design Notes

Nothing here can put another program in the place of this one, so handing over is refused like on
any system that does not support it.
-/

namespace RuntimeLauncher.CommandLine

/-- A failure of the system as the library names it. -/
def failureOf : IO.Error → Failure
  | .noFileOrDirectory _ code _ => .system (Int.ofNat code.toNat)
  | .permissionDenied _ code _ => .system (Int.ofNat code.toNat)
  | .inappropriateType _ code _ => .system (Int.ofNat code.toNat)
  | .resourceExhausted _ code _ => .system (Int.ofNat code.toNat)
  | .invalidArgument _ code _ => .system (Int.ofNat code.toNat)
  | e => .other (toString e)

/-- Keeps a failure as a value. -/
def attempt {α : Type} (action : IO α) : IO (Except Failure α) :=
  tryCatch (Except.ok <$> action) fun e => pure (.error (failureOf e))

/-- The kind of a file. -/
def kindOf : IO.FS.FileType → Files.Kind
  | .dir => .directory
  | .file => .file
  | .symlink => .link
  | .other => .special

/-- Stands in for the text of a file that was not read. -/
def unread : Failure := .other "not read"

/-- Looks at a path without reading what stands there. -/
def look (path : String) : IO Files.Sighting := do
  let place := (← IO.currentDir) / path
  let kind ← attempt do pure (kindOf (← place.metadata).type)
  let entries ← attempt do
    (← place.readDir).toList.mapM fun entry => do
      let data ← entry.path.symlinkMetadata
      pure (⟨.text entry.fileName, kindOf data.type⟩ : Files.Entry)
  pure ⟨kind, entries, .error unread⟩

/-- Looks at a path and reads what stands there. -/
def lookInto (path : String) : IO Files.Sighting := do
  let bytes ← attempt (IO.FS.readBinFile ((← IO.currentDir) / path))
  let text := bytes.bind fun bytes =>
    match String.fromUTF8? bytes with
    | some text => .ok text
    | none => .error .invalidUtf8
  pure { ← look path with text }

/-- The host before anything is known of its files and variables. -/
def blankHost : IO Host := do
  pure
    { environment := fun _ => none
      files := Files.ofSightings []
      workDir := ← attempt do pure (toString (← IO.currentDir))
      exeDir := some (toString (← IO.appDir))
      accountHome := none
      version := "0.1.0"
      logTime := toString (← IO.monoMsNow)
      crashTime := toString (← IO.monoMsNow)
      crashSite := "standard error"
      brokenErrors := none }

/-- Looks up what the program asks for. -/
def inform (host : Host) : IO Host := do
  let bindings ← host.asksVariables.filterMapM fun name => do
    pure ((← IO.getEnv name).map fun value => (name, value))
  let host := { host with environment := Environment.ofList bindings }
  let texts ← host.asksTexts.mapM fun path => do pure (path, ← lookInto path)
  let others ← host.asksFiles.mapM fun path => do pure (path, ← look path)
  pure { host with files := Files.ofSightings (texts ++ others) }

/-- Asks as often as it takes. -/
def informFully : Nat → Host → IO Host
  | 0, host => pure host
  | rounds + 1, host => do informFully rounds (← inform host)

/-- Handing over is not supported. -/
def unsupported : Failure := .other "unsupported"

/-- Writes a text to a stream. -/
def put (stream : IO.FS.Stream) (text : String) : IO (Except Failure Unit) :=
  attempt do
    stream.putStr text
    stream.flush

/-- Runs the program for a stream that may fail. -/
def runProgram (host : Host) (broken : Option Failure) : Program.Outcome Empty × String :=
  let (outcome, notes) := Program.run host (Rehearsal.outlet broken unsupported) Rehearsal.blank
  (outcome, notes.written)

/-- The status of a process that was taken down, as shells show it. -/
def abortStatus : UInt32 := 134

/-- Ends the program with what an outcome says. -/
def finish : Program.Ending Empty → IO UInt32
  | .exited code => pure (UInt32.ofNat (code % 256).toNat)
  | .crashed report aborted => do
    let _ ← attempt do
      IO.FS.createDirAll report.dir
      IO.FS.writeFile (Path.join report.dir report.name) report.text
    pure (if aborted then abortStatus else UInt32.ofNat Program.crashCode.toNat)

end RuntimeLauncher.CommandLine

open RuntimeLauncher RuntimeLauncher.CommandLine in
/-- The launcher on the command line. -/
def main : IO UInt32 := do
  let host ← informFully Host.rounds (← blankHost)
  let (first, output) := runProgram host none
  let outcome ←
    match ← put (← IO.getStdout) output with
    | .ok () => pure first
    | .error e => pure (runProgram host (some e)).1
  match ← put (← IO.getStderr) outcome.errors with
  | .ok () => finish outcome.ending
  | .error e => finish (runProgram { host with brokenErrors := some e } none).1.ending
