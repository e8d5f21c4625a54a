import RuntimeLauncher.Text.Character
import RuntimeLauncher.Text.Pieces

/-!
# Paths as texts

A path is a text whose names are divided by slashes. This module holds the operations that look at
the text alone and never at a file.

## Main Definitions

* `isAbsolute` — a path that starts at the root
* `join` — one path placed below another
* `names` — the names of a path
* `extension?`, `hasExtension` — the ending of a file name, and the test for one

## Design Notes

`join` adds a slash only where one is missing, and an absolute second path stands alone. The
versions on `List Char` carry the rules; those on `String` are their face to callers.
-/

namespace RuntimeLauncher.Path

/-- A path is absolute when it starts with a slash. -/
def isAbsolute (path : List Char) : Bool := path.head? == some '/'

/-- Holds when a text can be followed by a name without a slash between: it is empty or ends in
a slash. -/
def isOpen (path : List Char) : Bool :=
  match path.getLast? with
  | none => true
  | some c => c == '/'

/-- Places `part` below `base`. -/
def joinChars (base part : List Char) : List Char :=
  if isAbsolute part then part
  else if isOpen base then base ++ part
  else base ++ '/' :: part

/-- `joinChars` on strings. -/
def join (base part : String) : String := String.ofList (joinChars base.toList part.toList)

/-- The names of a path, without empty ones. -/
def names (path : List Char) : List (List Char) := Text.pieces (· == '/') path

/-- The part of a file name after its last dot. A name whose only dot comes first has none, nor
has the name of the parent directory. -/
def extension? (name : List Char) : Option (List Char) :=
  if name = ['.', '.'] then none
  else
    let tail := name.reverse.takeWhile (· != '.')
    let stem := name.reverse.drop (tail.length + 1)
    if stem.isEmpty then none else some tail.reverse

/-- Holds when a file name ends in a dot and the extension, up to ASCII case. -/
def hasExtension (name extension : String) : Bool :=
  match extension? name.toList with
  | none => false
  | some e => Text.sameUpToCase e extension.toList

end RuntimeLauncher.Path
