import RuntimeLauncher.Decimal.Shortest
import RuntimeLauncher.Text.Character
import RuntimeLauncher.Yaml.Plain
import RuntimeLauncher.Yaml.Token

/-!
# Why a YAML text cannot be decoded

A text may fail to be YAML, and YAML may fail to have the shape that its reader expects. The second
kind of failure is told with the way that leads to the node from the root.

## Main Definitions

* `Yaml.Path` — the way from the root to a node
* `Yaml.Sight`, `Yaml.Cause` — what was found, and what was wrong with it
* `Yaml.Error` — a failure with its place, and `Yaml.Error.message`, its wording

## Design Notes

A cause is raised without a place. The innermost decoder that knows the place of the node at hand
adds it, so a cause that only the enclosing mapping can see carries the place of that mapping. At
the first character of a text the place is left out, and so is a way that is written like the way
to the root.
-/

namespace RuntimeLauncher.Yaml

/-- One step from a node to a part of it. -/
inductive PathStep where
  | item (index : Nat)
  | field (key : String)
  /-- The value of a key that is not a scalar. -/
  | unknown
deriving DecidableEq

/-- The way from the root to a node, last step first. -/
abbrev Path := List PathStep

/-- The way as text. The root is a dot. -/
def Path.text : Path → String
  | [] => "."
  | .item index :: above => Path.text above ++ "[" ++ toString index ++ "]"
  | .field key :: above => (if above.isEmpty then "" else Path.text above ++ ".") ++ key
  | .unknown :: above => (if above.isEmpty then "" else Path.text above ++ ".") ++ "?"

/-- What was found at a node. -/
inductive Sight where
  | nothing
  | bool (b : Bool)
  | integer (n : Int)
  | wideInteger (n : Int) (signed : Bool)
  | float (x : Binary64)
  | string (s : String)
  | sequence
  | mapping

/-- The name of what was found. -/
def Sight.text : Sight → String
  | .nothing => "unit value"
  | .bool b => "boolean `" ++ (if b then "true" else "false") ++ "`"
  | .integer n => "integer `" ++ toString n ++ "`"
  | .wideInteger n signed =>
    "integer `" ++ toString n ++ "` as " ++ (if signed then "i128" else "u128")
  | .float x => "floating point `" ++ x.positional ++ "`"
  | .string s => "string " ++ Text.quoted s
  | .sequence => "sequence"
  | .mapping => "map"

/-- What is wrong with a node. -/
inductive Cause where
  | invalidType (found : Sight) (expected : String)
  | invalidValue (found : Sight) (expected : String)
  | unknownVariant (name : String) (known : List String)
  | duplicateField (name : String)
  /-- No reading of a value fits. -/
  | noReading (kind : String)
  /-- A local tag stands where any value is read. -/
  | localTag

/-- Names as alternatives. -/
def alternatives : List String → String
  | [] => "there are no variants"
  | [a] => "expected `" ++ a ++ "`"
  | [a, b] => "expected `" ++ a ++ "` or `" ++ b ++ "`"
  | names => "expected one of " ++ ", ".intercalate (names.map fun a => "`" ++ a ++ "`")

/-- The wording of a cause. -/
def Cause.text : Cause → String
  | .invalidType found expected => "invalid type: " ++ found.text ++ ", expected " ++ expected
  | .invalidValue found expected => "invalid value: " ++ found.text ++ ", expected " ++ expected
  | .unknownVariant name known => "unknown variant `" ++ name ++ "`, " ++ alternatives known
  | .duplicateField name => "duplicate field `" ++ name ++ "`"
  | .noReading kind => "data did not match any variant of untagged enum " ++ kind
  | .localTag => "untagged and internally tagged enums do not support enum input"

/-- Why a text cannot be decoded. -/
inductive Error where
  /-- A node has the wrong shape. The place is unknown until a decoder adds it. -/
  | data (cause : Cause) (place : Option (Mark × Path))
  /-- Collections are nested too deeply. -/
  | tooDeep (mark : Mark)
  /-- Aliases are followed too often. -/
  | tooManyAliases
  | endOfText
  | manyDocuments
  | unknownAnchor (mark : Mark)
  | malformed (e : SyntaxError)

namespace Error

/-- A place as the end of a message. -/
def atText (mark : Mark) : String := if mark.isOrigin then "" else " at " ++ mark.text

/-- The wording of an error. -/
def message : Error → String
  | .data cause none => cause.text
  | .data cause (some (mark, path)) =>
    (if Path.text path = "." then "" else Path.text path ++ ": ") ++ cause.text ++ atText mark
  | .tooDeep mark => "recursion limit exceeded" ++ atText mark
  | .tooManyAliases => "repetition limit exceeded"
  | .endOfText => "EOF while parsing a value"
  | .manyDocuments =>
    "deserializing from YAML containing more than one document is not supported"
  | .unknownAnchor mark => "unknown anchor" ++ atText mark
  | .malformed e => e.message

/-- Adds the place of a node to a cause that has none. -/
def placed (mark : Mark) (path : Path) : Error → Error
  | .data cause none => .data cause (some (mark, path))
  | e => e

end Error

end RuntimeLauncher.Yaml
