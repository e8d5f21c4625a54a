import RuntimeLauncher.Text.Octets
import RuntimeLauncher.Yaml.Mark

/-!
# Tokens of YAML

A YAML text is first read as a row of tokens. Indentation has become explicit in it: a block
collection opens and closes with tokens of its own.

## Main Definitions

* `Yaml.SyntaxError` — why a text is not YAML, and where
* `Yaml.ScalarStyle` — how a scalar was written
* `Yaml.Tag` — the name of a kind of node
* `Yaml.Token`, `Yaml.Lexeme` — a token, and a token with its place
-/

namespace RuntimeLauncher.Yaml

/-- Why a text cannot be read as YAML. -/
structure SyntaxError where
  /-- What was found. -/
  problem : String
  /-- Where it was found. -/
  mark : Mark
  /-- What was being read, and where that started. -/
  context : Option (String × Mark)
  /-- The byte at which reading stopped, where no line is known. -/
  offset : Nat
deriving DecidableEq

namespace SyntaxError

/-- A problem at a place. -/
def plain (problem : String) (mark : Mark) : SyntaxError := ⟨problem, mark, none, 0⟩

/-- A problem at a place while something else was being read. -/
def during (context : String) (start : Mark) (problem : String) (mark : Mark) : SyntaxError :=
  ⟨problem, mark, some (context, start), 0⟩

/-- The wording of a syntax error. -/
def message (e : SyntaxError) : String :=
  let place :=
    if !e.mark.isOrigin then " at " ++ e.mark.text
    else if e.offset != 0 then " at position " ++ toString e.offset
    else ""
  let context :=
    match e.context with
    | none => ""
    | some (context, start) =>
      let elsewhere := start.line != e.mark.line || start.column != e.mark.column
      ", " ++ context ++ (if !start.isOrigin && elsewhere then " at " ++ start.text else "")
  e.problem ++ place ++ context

end SyntaxError

/-- How a scalar was written. -/
inductive ScalarStyle where
  | plain
  | singleQuoted
  | doubleQuoted
  | literal
  | folded
deriving DecidableEq

/-- The name of a kind of node. Escapes may put any bytes into it except the null byte. -/
abbrev Tag := Octets

/-- A token. -/
inductive Token where
  | streamStart
  | streamEnd
  /-- A directive that names the version of the language. -/
  | versionDirective (major minor : Nat)
  /-- A directive that gives a tag handle its meaning. -/
  | tagDirective (handle : String) (meaning : Tag)
  | documentStart
  | documentEnd
  | blockSequenceStart
  | blockMappingStart
  | blockEnd
  | flowSequenceStart
  | flowSequenceEnd
  | flowMappingStart
  | flowMappingEnd
  | blockEntry
  | flowEntry
  | key
  | value
  | alias (name : String)
  | anchor (name : String)
  | tag (handle : String) (suffix : Tag)
  | scalar (text : String) (style : ScalarStyle)
deriving DecidableEq

/-- A token with the places where it starts and stops. -/
structure Lexeme where
  token : Token
  start : Mark
  stop : Mark

end RuntimeLauncher.Yaml
