import RuntimeLauncher.Files.View
import RuntimeLauncher.Yaml.Error

/-!
# Files that hold a document

Settings and stores are kept in files. Such a file can be unreadable, and its text can fail to have
the right shape.

## Main Definitions

* `DocumentFile.Purpose` — what a file is read for
* `DocumentFile.Error` — which file failed and why
* `DocumentFile.load` — reads and decodes a file
-/

namespace RuntimeLauncher.DocumentFile

/-- What a file is read for. -/
inductive Purpose where
  | settings
  | store
deriving DecidableEq

/-- The word for a purpose. -/
def Purpose.word : Purpose → String
  | .settings => "config"
  | .store => "store"

/-- Why a file cannot be used. -/
inductive Cause where
  | unreadable (failure : Failure)
  | undecodable (e : Yaml.Error)

/-- The wording of a cause. -/
def Cause.message : Cause → String
  | .unreadable failure => failure.message
  | .undecodable e => e.message

/-- A file that cannot be used. -/
structure Error where
  purpose : Purpose
  path : String
  cause : Cause

/-- What was being done when a file failed. -/
def Error.context (e : Error) : String :=
  let verb :=
    match e.cause with
    | .unreadable _ => "read"
    | .undecodable _ => "parse"
  "Failed to " ++ verb ++ " " ++ e.purpose.word ++ " file " ++ e.path

/-- The wording of an error, from the outermost circumstance to the innermost. -/
def Error.chain (e : Error) : List String := [e.context, e.cause.message]

/-- Reads a file and decodes its text. -/
def load {α : Type} (files : Files) (purpose : Purpose) (path : String)
    (decode : String → Except Yaml.Error α) : Except Error α :=
  match files.readText path with
  | .error failure => .error ⟨purpose, path, .unreadable failure⟩
  | .ok text =>
    match decode text with
    | .error e => .error ⟨purpose, path, .undecodable e⟩
    | .ok found => .ok found

end RuntimeLauncher.DocumentFile
