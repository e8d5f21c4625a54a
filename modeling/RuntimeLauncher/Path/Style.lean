import RuntimeLauncher.Path.Basic

/-!
# Styles of writing paths

Settings may be written for one system and read on another. A style says which character divides
the names of a path and which divides the entries of a class path.

## Main Definitions

* `Path.Style` — the two separators
* `Path.Style.localize` — writes a path with backslashes in a style
* `Path.Style.resolve` — the place that a path of a style denotes below a base

## Design Notes

Whether a path is absolute is asked of the slash alone, whatever the style. A relative path is cut
at the style's own separator, and its non-empty names are joined to the base one after another.
-/

namespace RuntimeLauncher.Path

/-- The separators of a way to write paths. -/
structure Style where
  /-- Divides the entries of a class path. -/
  listSeparator : Char
  /-- Divides the names of a path. -/
  dirSeparator : Char
deriving DecidableEq

namespace Style

/-- Backslashes, and semicolons between entries. -/
def windows : Style := ⟨';', '\\'⟩

/-- Slashes, and colons between entries. -/
def unix : Style := ⟨':', '/'⟩

/-- The style of the system this launcher runs on. -/
def native : Style := unix

/-- Writes a path that uses backslashes in this style. -/
def localize (style : Style) (path : String) : String :=
  String.ofList (path.toList.map fun c => if c = '\\' then style.dirSeparator else c)

/-- The place that `relative` denotes below `base`. -/
def resolveChars (style : Style) (base relative : List Char) : List Char :=
  if isAbsolute relative then relative
  else (Text.pieces (· == style.dirSeparator) relative).foldl joinChars base

/-- `resolveChars` on strings. -/
def resolve (style : Style) (base relative : String) : String :=
  String.ofList (style.resolveChars base.toList relative.toList)

end Style

end RuntimeLauncher.Path
