import RuntimeLauncher.Machine.Image
import RuntimeLauncher.Machine.Shell
import RuntimeLauncher.Program.Basic

/-!
# Machines

A machine is a host as a value: a file tree, the variables of the process, and streams that collect
what is written. On a machine the program can be run from its start to the end of the process that
it hands over to.

## Main Definitions

* `Machine` — the host as a value
* `Machine.Result` — what is left when the process has ended
* `Machine.run` — runs the program and what it hands over to

## Design Notes

Only scripts of the shell can be followed further. Whatever else the process becomes, it is taken to
end at once and without a word.
-/

namespace RuntimeLauncher

/-- A host as a value. -/
structure Machine where
  tree : FileTree
  workDir : Place
  /-- The directory of the program's own file. -/
  exeDir : Place
  bindings : List (String × String)
  /-- How writing to the output stream fails, if it does. -/
  brokenOutput : Option Failure
  brokenErrors : Option Failure
  accountHome : Option String
  version : String
  logTime : String
  crashTime : String
  crashSite : String

namespace Machine

/-- What is left when the process has ended. -/
structure Result where
  /-- The exit code. A process that the system took down has none. -/
  exit : Option Int
  output : Octets
  errors : String
  /-- The crash report, in the directory where it was written. -/
  crash : Option Program.CrashReport

/-- The machine as the program finds it. -/
def host (machine : Machine) : Host where
  environment := Environment.ofList machine.bindings
  files := machine.tree.view machine.workDir
  workDir := .ok (FileTree.placeText machine.workDir)
  exeDir := some (FileTree.placeText machine.exeDir)
  accountHome := machine.accountHome
  version := machine.version
  logTime := machine.logTime
  crashTime := machine.crashTime
  crashSite := machine.crashSite
  brokenErrors := machine.brokenErrors

/-- The outlet of the machine. Its state is what arrived on the output stream. -/
def outlet (machine : Machine) : Outlet String Image where
  write := fun text output =>
    match machine.brokenOutput with
    | some e => (.error e, output)
    | none => (.ok (), output ++ text)
  flush := fun output =>
    match machine.brokenOutput with
    | some e => (.error e, output)
    | none => (.ok (), output)
  replace := fun command output =>
    (Image.replace machine.tree machine.workDir (Environment.ofList machine.bindings "PATH")
      command, output)

/-- What an image writes, and its exit status. -/
def follow (machine : Machine) (image : Image) : Shell.Result :=
  let silent : Shell.Result := ⟨.text "", "", 0⟩
  let shellPlace := (machine.tree.locate true machine.workDir Image.shell).toOption
  let operands := (image.arguments.drop 1).dropWhile fun argument => argument.startsWith "-"
  match operands with
  | script :: parameters =>
    if some image.program = shellPlace then
      let text := (machine.tree.readText machine.workDir script).toOption.getD ""
      let environment := Environment.ofList machine.bindings
      Shell.run ⟨environment, script, parameters, machine.brokenOutput.isSome⟩ text
    else silent
  | [] => silent

/-- Writes a crash report, and says where it stands. Nothing is written where no directory can be
made. -/
def keepReport (machine : Machine) (report : Program.CrashReport) : Option Program.CrashReport :=
  let start := if Path.isAbsolute report.dir.toList then [] else machine.workDir
  match machine.tree.makeDirs start (FileTree.stepsOf report.dir.toList) with
  | .error _ => none
  | .ok (_, place) => some { report with dir := FileTree.placeText place }

/-- Runs the program and what it hands over to. -/
def run (machine : Machine) : Result :=
  let (outcome, output) := (Program.run machine.host machine.outlet).run ""
  match outcome.ending with
  | .replaced image =>
    let result := machine.follow image
    let complaints := if machine.brokenErrors.isSome then "" else result.errors
    ⟨some result.status, (Octets.text output).append result.output,
      outcome.errors ++ complaints, none⟩
  | .exited code => ⟨some code, .text output, outcome.errors, none⟩
  | .crashed report aborted =>
    let exit := if aborted then none else some Program.crashCode
    ⟨exit, .text output, outcome.errors, machine.keepReport report⟩

end Machine

end RuntimeLauncher
