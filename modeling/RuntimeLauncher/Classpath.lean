import RuntimeLauncher.Files.View
import RuntimeLauncher.Log
import RuntimeLauncher.Path.Style

/-!
# The class path

The runtime finds its code through a list of archives. Directories are scanned one after another,
and every archive directly inside one becomes an entry.

## Main Definitions

* `Classpath` — the entries with the style in which they are written
* `Classpath.archives` — the entries that one listing gives rise to
* `Classpath.addFrom`, `Classpath.build` — scanning one directory, and a row of them
* `Classpath.text` — the entries as one text

## Design Notes

The first entry stands for the working directory itself. An entry is the directory as the settings
spell it, a separator and the file's name. Subdirectories are no archives, links are taken as they
are, and names that are not text cannot be written down. A directory that cannot be listed counts as
empty.
-/

namespace RuntimeLauncher

/-- The entries of a class path. -/
structure Classpath where
  style : Path.Style
  entries : List String
deriving DecidableEq

namespace Classpath

/-- The first entry of every class path. -/
def sentinel : String := "."

/-- The class path before any scan. -/
def start (style : Path.Style) : Classpath := ⟨style, [sentinel]⟩

/-- The name of an archive, if a line of a listing is one. -/
def archiveName? (extension : String) (entry : Files.Entry) : Option String :=
  if entry.kind = .directory then none
  else entry.name.text?.filter fun name => Path.hasExtension name extension

/-- The entry for a file in a directory. -/
def entryText (style : Path.Style) (dir name : String) : String :=
  dir ++ String.singleton style.dirSeparator ++ name

/-- The entries that the listing of a directory gives rise to. -/
def archives (style : Path.Style) (dir extension : String) (listing : List Files.Entry) :
    List String :=
  (listing.filterMap (archiveName? extension)).map (entryText style dir)

/-- The speaker of this module in the log. -/
def logTarget : String := "jxta_launcher::classpath"

/-- The entries that a scan of a directory finds. -/
def scan (files : Files) (base : String) (style : Path.Style) (extension dir : String) :
    Logged (List String) := do
  match files.list (style.resolve base dir) with
  | .ok listing => pure (archives style dir extension listing)
  | .error failure =>
    Logged.trace logTarget ("Skipping classpath directory " ++ dir ++ ": " ++ failure.message)
    pure []

/-- Adds the archives of a directory, and says how many there were. -/
def addFrom (classpath : Classpath) (files : Files) (base extension dir : String) :
    Logged (Nat × Classpath) := do
  let found ← scan files base classpath.style extension dir
  if !found.isEmpty then
    Logged.debug logTarget ("Added " ++ toString found.length ++ " archive(s) from " ++ dir)
  pure (found.length, { classpath with entries := classpath.entries ++ found })

/-- Adds the archives of a row of directories. -/
def addAll (files : Files) (base extension : String) : Classpath → List String → Logged Classpath
  | classpath, [] => pure classpath
  | classpath, dir :: rest => do
    let (_, classpath) ← classpath.addFrom files base extension dir
    addAll files base extension classpath rest

/-- The class path for a row of directories. -/
def build (files : Files) (base : String) (style : Path.Style) (extension : String)
    (dirs : List String) : Logged Classpath :=
  addAll files base extension (start style) dirs

/-- The entries as one text. -/
def text (classpath : Classpath) : String :=
  String.ofList
    (Text.joinWith classpath.style.listSeparator (classpath.entries.map String.toList))

end Classpath

end RuntimeLauncher
