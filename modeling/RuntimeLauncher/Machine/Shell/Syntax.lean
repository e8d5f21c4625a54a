/-!
# Shell scripts

A runtime may be a script of the system's shell. This module reads the part of the shell's language
that such scripts need: simple commands with quoted words, and loops over a list of words.

## Main Definitions

* `Shell.Piece`, `Shell.Word` — a word with the places where values are filled in
* `Shell.Token`, `Shell.tokens` — words and the ends of commands
* `Shell.Command`, `Shell.Command.parse` — commands

## Design Notes

Reading characters is a fold over a small state, since no decision needs more than one character
ahead. What follows a dollar sign is collected until a character comes that cannot belong to it, and
that character is then read as usual.
-/

namespace RuntimeLauncher.Shell

/-- A part of a word. -/
inductive Piece where
  | text (s : String)
  /-- A value by name. Outside quotes it may fall into several words. -/
  | value (name : String) (quoted : Bool)
deriving DecidableEq

/-- A word before values are filled in. -/
abbrev Word := List Piece

/-- What a script is made of. A word comes with the number of the line on which it ends. -/
inductive Token where
  | word (w : Word) (line : Nat)
  | stop
deriving DecidableEq

/-! ### Characters to tokens -/

/-- Whether characters stand between double quotes. -/
abbrev Quoting := Bool

/-- Where the reader is. -/
inductive Mode where
  | normal (quoting : Quoting)
  | single
  | comment
  | escaped (quoting : Quoting)
  | dollar (quoting : Quoting)
  | named (quoting : Quoting) (name : String)
  | braced (quoting : Quoting) (name : String)

/-- The state of the reader. Tokens stand last first. -/
structure Reader where
  mode : Mode
  word : Option Word
  tokens : List Token
  /-- The number of the current line. -/
  line : Nat

namespace Reader

/-- Nothing is read. -/
def start : Reader := ⟨.normal false, none, [], 1⟩

/-- Adds a part to the current word. -/
def add (reader : Reader) (piece : Piece) (mode : Mode) : Reader :=
  { reader with mode, word := some (reader.word.getD [] ++ [piece]) }

/-- Ends the current word. -/
def endWord (reader : Reader) : Reader :=
  match reader.word with
  | none => reader
  | some word => { reader with word := none, tokens := .word word reader.line :: reader.tokens }

/-- Ends the current command. -/
def endCommand (reader : Reader) : Reader :=
  let reader := reader.endWord
  { reader with tokens := .stop :: reader.tokens }

/-- A character that a name can go on with. -/
def isNameChar (c : Char) : Bool := c.isAlphanum || c == '_'

/-- A name of one character that is no letter. -/
def isSpecialName (c : Char) : Bool := c == '#' || c == '@' || c == '?' || c.isDigit

/-- Reads a character outside single quotes and names. -/
def readNormal (reader : Reader) (quoting : Quoting) (c : Char) : Reader :=
  if c == '$' then { reader with mode := .dollar quoting }
  else if c == '\\' then { reader with mode := .escaped quoting }
  else if c == '"' then reader.add (.text "") (.normal (!quoting))
  else if quoting then reader.add (.text c.toString) (.normal true)
  else if c == '\'' then reader.add (.text "") .single
  else if c == '#' && reader.word.isNone then { reader with mode := .comment }
  else if c == '\n' || c == ';' then { reader.endCommand with mode := .normal false }
  else if c == ' ' || c == '\t' then { reader.endWord with mode := .normal false }
  else reader.add (.text c.toString) (.normal false)

/-- A backslash between double quotes hides only these. -/
def isHidden (c : Char) : Bool := c == '$' || c == '"' || c == '\\' || c == '\x60'

/-- Reads one character of a line. -/
def readChar (reader : Reader) (c : Char) : Reader :=
  match reader.mode with
  | .normal quoting => reader.readNormal quoting c
  | .single =>
    if c == '\'' then { reader with mode := .normal false }
    else reader.add (.text c.toString) .single
  | .comment =>
    if c == '\n' then { reader.endCommand with mode := .normal false } else reader
  | .escaped quoting =>
    if c == '\n' then { reader with mode := .normal quoting }
    else
      let shown := if quoting && !isHidden c then "\\" ++ c.toString else c.toString
      reader.add (.text shown) (.normal quoting)
  | .dollar quoting =>
    if isSpecialName c then reader.add (.value c.toString quoting) (.normal quoting)
    else if isNameChar c then { reader with mode := .named quoting c.toString }
    else if c == '\x7b' then { reader with mode := .braced quoting "" }
    else (reader.add (.text "$") (.normal quoting)).readNormal quoting c
  | .named quoting name =>
    if isNameChar c then { reader with mode := .named quoting (name.push c) }
    else (reader.add (.value name quoting) (.normal quoting)).readNormal quoting c
  | .braced quoting name =>
    if c == '\x7d' then reader.add (.value name quoting) (.normal quoting)
    else { reader with mode := .braced quoting (name.push c) }

/-- Reads one character. -/
def read (reader : Reader) (c : Char) : Reader :=
  let reader := reader.readChar c
  if c == '\n' then { reader with line := reader.line + 1 } else reader

/-- Ends the text. -/
def finish (reader : Reader) : Reader :=
  match reader.mode with
  | .named quoting name => (reader.add (.value name quoting) (.normal quoting)).endCommand
  | .dollar quoting => (reader.add (.text "$") (.normal quoting)).endCommand
  | _ => reader.endCommand

end Reader

/-- The tokens of a script. -/
def tokens (script : String) : List Token :=
  (script.toList.foldl Reader.read Reader.start).finish.tokens.reverse

/-! ### Tokens to commands -/

/-- A command. Simple ones know the line on which they start. -/
inductive Command where
  | simple (line : Nat) (words : List Word)
  | forEach (name : String) (items : List Word) (body : List Command)

/-- The characters of a word without quotes and values. -/
def plainWord? (word : Word) : Option String :=
  word.foldl (fun found piece =>
    match found, piece with
    | some s, .text t => some (s ++ t)
    | _, _ => none) (some "")

/-- Holds for the word that is written so. -/
def isKeyword (keyword : String) (word : Word) : Bool := plainWord? word == some keyword

/-- The words of a command with their lines. -/
abbrev Phrase := List (Word × Nat)

/-- The commands of a script, one row of words after another. -/
def phrases : List Token → List Phrase
  | [] => [[]]
  | .stop :: rest => [] :: phrases rest
  | .word w line :: rest =>
    match phrases rest with
    | [] => [[(w, line)]]
    | phrase :: others => ((w, line) :: phrase) :: others

/-- Reads commands up to the end of a loop's body, and says what is left. -/
def Command.parse : Nat → List Phrase → List Command × List Phrase
  | 0, rest => ([], rest)
  | _, [] => ([], [])
  | fuel + 1, phrase :: rest =>
    match phrase with
    | [] => parse fuel rest
    | (first, line) :: words =>
      if isKeyword "done" first then ([], words :: rest)
      else if isKeyword "do" first then parse fuel (words :: rest)
      else if isKeyword "for" first then
        let name := (words.head?.bind fun word => plainWord? word.1).getD ""
        let (body, rest) := parse fuel rest
        let (others, rest) := parse fuel (rest.drop 1)
        (.forEach name ((words.drop 2).map Prod.fst) body :: others, rest)
      else
        let (others, rest) := parse fuel rest
        (.simple line (phrase.map Prod.fst) :: others, rest)

/-- The commands of a script. -/
def parse (script : String) : List Command :=
  let phrases := phrases (tokens script)
  let size := (phrases.map fun phrase => phrase.length + 1).foldr (· + ·) 0
  (Command.parse size phrases).1

end RuntimeLauncher.Shell
