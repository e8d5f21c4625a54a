import RuntimeLauncher.Text.Character
import RuntimeLauncher.Text.Pieces

/-!
# Key paths

A key of the store is named by a path. The same key has many spellings: slashes and backslashes both
divide components, empty components do not count, and the case of ASCII letters does not matter.

## Main Definitions

* `KeyPath.components` — the components of a spelling, in small letters
* `KeyPath.normal` — the normal spelling: the components with one backslash between neighbours
* `KeyPath.covers` — a normal spelling names a key at or above another one

## Design Notes

The store keeps its keys under their normal spellings, and the wording of an error shows them so.
The root is the empty spelling. `covers` compares texts: a key lies below another if its spelling
goes on with a backslash, so a longer name of a sibling never counts.
-/

namespace RuntimeLauncher

namespace KeyPath

/-- The two characters that divide components. -/
def isSeparator (c : Char) : Bool := c == '/' || c == '\\'

/-- The components of a spelling, in small letters. -/
def components (path : String) : List (List Char) :=
  (Text.pieces isSeparator path.toList).map Text.lower

/-- The normal spelling. -/
def normal (path : String) : String :=
  String.ofList (Text.joinWith '\\' (components path))

/-- The normal spelling of a key below one with the spelling `above`. -/
def below (above path : String) : String :=
  let path := normal path
  if path.isEmpty then above
  else if above.isEmpty then path
  else above ++ "\\" ++ path

/-- The spelling `above` names the key `path` or one that lies over it. -/
def covers (above path : String) : Bool :=
  path == above || above.isEmpty || (above ++ "\\").toList.isPrefixOf path.toList

end KeyPath

end RuntimeLauncher
