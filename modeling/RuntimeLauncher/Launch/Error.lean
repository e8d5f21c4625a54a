import RuntimeLauncher.Failure
import RuntimeLauncher.Text.Pieces

/-!
# Why a launch fails

## Main Definitions

* `ExecError` — the system refused to run a program
* `LaunchError` — all reasons, with their wording and exit code
* `LaunchError.report` — what the user is shown
* `LaunchError.detail` — what the log shows

## Design Notes

A problem with a file is told as a chain of circumstances, the outermost first and the cause last.
-/

namespace RuntimeLauncher

/-- The system refused to run a program. -/
structure ExecError where
  program : String
  failure : Failure
deriving DecidableEq

namespace ExecError

/-- The wording of an error. -/
def message (e : ExecError) : String :=
  "Failed to start " ++ e.program ++ ": " ++ e.failure.message

/-- The number of the system's error. -/
def code (e : ExecError) : Int := e.failure.code?.getD 1

end ExecError

/-- Why a launch fails. -/
inductive LaunchError where
  /-- The runtime's program is not there. The path is empty if no place is known. -/
  | runtimeNotFound (path : String)
  /-- None of the markers is there. -/
  | installNotFound (markers : List String)
  /-- Settings or store cannot be used. -/
  | configuration (chain : List String)
  /-- The runtime cannot be started. -/
  | exec (e : ExecError)
deriving DecidableEq

namespace LaunchError

/-- Markers for the user. -/
def quotedMarkers (markers : List String) : String :=
  " or ".intercalate (markers.map fun marker => "\"" ++ marker ++ "\"")

/-- The wording of an error. -/
def message : LaunchError → String
  | .runtimeNotFound _ => "Error finding Java, aborting"
  | .installNotFound markers =>
    "Sorry, cannot locate " ++ quotedMarkers markers ++
      " \nDid you run this program from the correct directory?"
  | .configuration chain => "Configuration error: " ++ ": ".intercalate chain
  | .exec e => e.message

/-- The exit code of the launcher. -/
def exitCode : LaunchError → Int
  | .exec e => e.code
  | _ => 1

/-- What the user is shown. A broken installation is told under the launcher's name. -/
def report : LaunchError → String
  | .installNotFound markers =>
    "JXTA launcher: " ++ message (.installNotFound markers) ++ "\n"
  | e => e.message ++ "\n"

/-! ### For the log -/

/-- Lines set in below their first one. -/
def indented (first others text : String) : String :=
  first ++ String.ofList
    ((Text.splitBy (· == '\n') text.toList).intersperse ('\n' :: others.toList)).flatten

/-- The circumstances behind the outermost one, numbered if there are several. -/
def causes (chain : List String) : String :=
  match chain with
  | [] => ""
  | [cause] => "\n\nCaused by:\n" ++ indented "    " "    " cause
  | several =>
    let lines := several.zipIdx.map fun (cause, i) =>
      let number := toString i
      let blanks := String.ofList (List.replicate (5 - number.length) ' ')
      "\n" ++ indented (blanks ++ number ++ ": ") "       " cause
    "\n\nCaused by:" ++ String.join lines

/-- What the log shows. -/
def detail : LaunchError → String
  | .runtimeNotFound path => "RuntimeNotFound \x7b path: " ++ Text.quoted path ++ " \x7d"
  | .installNotFound markers =>
    "InstallNotFound \x7b markers: [" ++ ", ".intercalate (markers.map Text.quoted) ++ "] \x7d"
  | .configuration chain => "Config(" ++ chain.headD "" ++ causes (chain.drop 1) ++ ")"
  | .exec e =>
    "Exec(ExecError \x7b program: " ++ Text.quoted e.program ++ ", source: " ++
      e.failure.detail ++ " \x7d)"

end LaunchError

end RuntimeLauncher
