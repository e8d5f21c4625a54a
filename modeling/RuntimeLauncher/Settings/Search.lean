import RuntimeLauncher.Files.Document
import RuntimeLauncher.Log
import RuntimeLauncher.Path.Basic
import RuntimeLauncher.Settings.File

/-!
# Searching for settings files

## Main Definitions

* `Layer.ofFile` — the layer in a file, if the file is there
* `Layer.search` — the layers of all directories laid over one another

## Design Notes

A directory without a settings file sets nothing. The first file that cannot be used ends the
search, and the files after it are not looked at.
-/

namespace RuntimeLauncher.Layer

/-- The name of a settings file. -/
def fileName : String := "launcher.yml"

/-- The speaker of this module in the log. -/
def logTarget : String := "jxta_launcher::config::manager"

/-- The layer in a file. A file that is not there gives none. -/
def ofFile (files : Files) (path : String) : Logged (Except DocumentFile.Error (Option Layer)) := do
  if files.present path then
    match DocumentFile.load files .settings path decode with
    | .error e => pure (.error e)
    | .ok layer =>
      Logged.debug logTarget ("Loaded launcher config from " ++ path)
      pure (.ok (some layer))
  else pure (.ok none)

/-- Lays the files of directories over a layer, the first directory lowest. -/
def searchOnto (files : Files) (lower : Layer) :
    List String → Logged (Except DocumentFile.Error Layer)
  | [] => pure (.ok lower)
  | dir :: rest => do
    match ← ofFile files (Path.join dir fileName) with
    | .error e => pure (.error e)
    | .ok none => searchOnto files lower rest
    | .ok (some upper) => searchOnto files (upper.onto lower) rest

/-- The layer that the files of directories make together. -/
def search (files : Files) (dirs : List String) : Logged (Except DocumentFile.Error Layer) :=
  searchOnto files blank dirs

end RuntimeLauncher.Layer
