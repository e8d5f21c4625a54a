import RuntimeLauncher.Failure
import RuntimeLauncher.Text.Octets

/-!
# What can be asked of a file system

The launcher asks three questions: what stands at a path, what a directory holds, and what text a
file holds. Its decisions depend on the answers alone. So a program on a real system can look at the
paths that matter before it decides anything, and what was seen then serves as its file system.

## Main Definitions

* `Files.Kind`, `Files.Entry` — what stands at a path, and one line of a listing
* `Files` — the three questions with their answers
* `Files.present`, `Files.isFile` — the two tests that the launcher makes of an answer
* `Files.Sighting`, `Files.ofSightings` — what was seen at a path, and a file system that knows it

## Design Notes

`stat` follows symbolic links and a listing does not, so the same name may be a directory to one and
a link to the other. The order of a listing is left open.

A device, a pipe or a socket is present and may be read from, but it is no regular file.
-/

namespace RuntimeLauncher

namespace Files

/-- What stands at a path. -/
inductive Kind where
  /-- A regular file. -/
  | file
  | directory
  /-- A symbolic link, seen itself and not followed. -/
  | link
  /-- A device, a pipe or a socket. -/
  | special
deriving DecidableEq

/-- One line of a directory's listing, with the link itself where the name is a link. -/
structure Entry where
  name : Octets
  kind : Kind
deriving DecidableEq

end Files

/-- A file system as seen from a working directory. -/
structure Files where
  /-- What stands at a path, at the end of all links. -/
  stat : String → Except Failure Files.Kind
  /-- The entries of a directory. -/
  list : String → Except Failure (List Files.Entry)
  /-- The text of a file. -/
  readText : String → Except Failure String

namespace Files

/-- Something stands at the path. -/
def present (files : Files) (path : String) : Bool :=
  match files.stat path with
  | .ok _ => true
  | .error _ => false

/-- A regular file stands at the path. -/
def isFile (files : Files) (path : String) : Bool :=
  match files.stat path with
  | .ok .file => true
  | _ => false

/-! ### Files seen beforehand -/

/-- What was seen at a path: its kind, its entries and its text, as far as it has them. -/
structure Sighting where
  kind : Except Failure Kind
  entries : Except Failure (List Entry)
  text : Except Failure String

/-- Nothing is there. -/
def Sighting.absent : Sighting := ⟨.error .notFound, .error .notFound, .error .notFound⟩

/-- The file system that knows what was seen. A path that was not looked at is taken to be
absent. -/
def ofSightings (seen : List (String × Sighting)) : Files :=
  let sighting := fun path => (seen.lookup path).getD .absent
  { stat := fun path => (sighting path).kind
    list := fun path => (sighting path).entries
    readText := fun path => (sighting path).text }

end Files

end RuntimeLauncher
