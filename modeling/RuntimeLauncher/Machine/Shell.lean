import RuntimeLauncher.Command
import RuntimeLauncher.Machine.Shell.Syntax
import RuntimeLauncher.Text.Octets
import RuntimeLauncher.Text.Pieces

/-!
# Running shell scripts

## Main Definitions

* `Shell.State` — the variables, what was written, and how the script stands
* `Shell.expand` — fills the values into a word
* `Shell.run` — runs a script with its parameters

## Design Notes

A script writes with `echo`, loops with `for` and ends with `exit` or at its last line. A command
that is not known has the status that the shell gives to a command that is not found. The exit
status is a byte.

Escapes let `echo` write any bytes, so what a script writes need not be text. If the output stream
fails, `echo` complains with the number of the line on which it stands.
-/

namespace RuntimeLauncher.Shell

/-- How a script stands. -/
structure State where
  bindings : List (String × String)
  /-- The bytes that were written. -/
  written : List UInt8
  /-- What the shell complained of. -/
  complaints : String
  status : Nat
  /-- The script has ended. -/
  ended : Bool

/-- What a script was started with. -/
structure Setting where
  environment : Environment
  /-- The name of the script and its parameters. -/
  name : String
  parameters : List String
  /-- The output stream takes nothing. -/
  deaf : Bool

/-! ### Filling in values -/

/-- The value of a name that stands for one text. -/
def Setting.value (setting : Setting) (state : State) (name : String) : String :=
  if name = "#" then toString setting.parameters.length
  else if name = "?" then toString state.status
  else
    match name.toNat? with
    | some 0 => setting.name
    | some (n + 1) => setting.parameters.getD n ""
    | none => ((state.bindings.lookup name).or (setting.environment name)).getD ""

/-- The parts of a text between blanks. -/
def fields (text : String) : List String :=
  (Text.pieces (fun c => c == ' ' || c == '\t' || c == '\n') text.toList).map String.ofList

/-- Adds texts to a row of words whose last one may still grow. Each text after the first starts a
word of its own. -/
def joinOn (done : List String) (open? : Option String) : List String → List String × Option String
  | [] => (done, open?)
  | [last] => (done, some (open?.getD "" ++ last))
  | first :: rest => joinOn (done ++ [open?.getD "" ++ first]) none rest

/-- Fills the values into the pieces of a word. A word may become several, or none. -/
def expandPieces (setting : Setting) (state : State) :
    List String → Option String → Word → List String
  | done, open?, [] => done ++ open?.toList
  | done, open?, .text s :: rest =>
    expandPieces setting state done (some (open?.getD "" ++ s)) rest
  | done, open?, .value name quoted :: rest =>
    let texts :=
      if name = "@" then
        if quoted then setting.parameters else setting.parameters.flatMap fields
      else
        let text := setting.value state name
        if quoted then [text] else fields text
    let (done, open?) := joinOn done open? texts
    expandPieces setting state done open? rest

/-- Quotes around nothing but all parameters make no word of their own. -/
def withoutBareQuotes (word : Word) : Word :=
  if word.contains (.value "@" true) then word.filter (· != .text "") else word

/-- Fills the values into a word. -/
def expand (setting : Setting) (state : State) (word : Word) : List String :=
  expandPieces setting state [] none (withoutBareQuotes word)

/-! ### Commands -/

/-- The characters that a letter after a backslash stands for. -/
def escapes : List (Char × Char) :=
  [('\\', '\\'), ('a', '\x07'), ('b', '\x08'), ('f', '\x0c'), ('n', '\n'), ('r', '\r'),
    ('t', '\t'), ('v', '\x0b')]

/-- An octal digit. -/
def isOctal (c : Char) : Bool := '0' ≤ c && c ≤ '7'

/-- The octal digits that go on an escape: up to three after a zero, and up to two otherwise. -/
def octalTail (c : Char) (rest : List Char) : List Char :=
  (rest.take (if c == '0' then 3 else 2)).takeWhile isOctal

/-- The byte for octal digits. Only its lowest bits count. -/
def octalByte (digits : List Char) : UInt8 :=
  (digits.foldl (fun n c => 8 * n + (c.toNat - '0'.toNat)) 0).toUInt8

/-- The bytes that `echo` writes for a text, and whether it goes on after it. -/
def shown (text : List Char) : List UInt8 × Bool :=
  match text with
  | '\\' :: 'c' :: _ => ([], false)
  | '\\' :: c :: rest =>
    if isOctal c then
      let tail := octalTail c rest
      let (others, more) := shown (rest.drop tail.length)
      (octalByte (c :: tail) :: others, more)
    else
      let (others, more) := shown rest
      match escapes.lookup c with
      | some d => (String.utf8EncodeChar d ++ others, more)
      | none => (String.utf8EncodeChar '\\' ++ String.utf8EncodeChar c ++ others, more)
  | c :: rest =>
    let (others, more) := shown rest
    (String.utf8EncodeChar c ++ others, more)
  | [] => ([], true)
termination_by text.length
decreasing_by all_goals simp <;> omega

/-- What `echo` writes. -/
def echo (words : List String) : List UInt8 :=
  let silent := words.head? == some "-n"
  let words := if silent then words.drop 1 else words
  let (bytes, more) := shown (" ".intercalate words).toList
  bytes ++ (if more && !silent then [10] else [])

/-- The status of a command that is not found. -/
def notFoundStatus : Nat := 127

/-- Complains about a command on a line. -/
def State.complain (state : State) (setting : Setting) (line : Nat) (text : String)
    (status : Nat) : State :=
  { state with
    complaints := state.complaints ++ setting.name ++ ": " ++ toString line ++ ": " ++ text ++ "\n"
    status }

/-- Writes bytes for a command on a line. -/
def State.write (state : State) (setting : Setting) (line : Nat) (bytes : List UInt8) : State :=
  if setting.deaf && !bytes.isEmpty then state.complain setting line "echo: echo: I/O error" 1
  else { state with written := state.written ++ bytes, status := 0 }

/-- Runs a command of plain words. -/
def runSimple (setting : Setting) (state : State) (line : Nat) : List String → State
  | [] => state
  | name :: words =>
    if name = "echo" then state.write setting line (echo words)
    else if name = "exit" then
      let status := (words.head?.bind String.toNat?).getD state.status
      { state with status := status % 256, ended := true }
    else if name = "true" || name = ":" then { state with status := 0 }
    else if name = "false" then { state with status := 1 }
    else state.complain setting line (name ++ ": not found") notFoundStatus

mutual

/-- Runs a command unless the script has ended. -/
def runCommand (setting : Setting) (state : State) : Command → State
  | .simple line words =>
    if state.ended then state
    else runSimple setting state line (words.flatMap (expand setting state))
  | .forEach name items body =>
    (items.flatMap (expand setting state)).foldl
      (fun state item =>
        runCommands setting { state with bindings := (name, item) :: state.bindings } body)
      state

/-- Runs commands one after another. -/
def runCommands (setting : Setting) (state : State) : List Command → State
  | [] => state
  | command :: rest => runCommands setting (runCommand setting state command) rest

end

/-- What is left of a script. -/
structure Result where
  output : Octets
  errors : String
  status : Nat

/-- Runs a script. -/
def run (setting : Setting) (script : String) : Result :=
  let state := runCommands setting ⟨[], [], "", 0, false⟩ (parse script)
  ⟨.ofBytes state.written, state.complaints, state.status⟩

end RuntimeLauncher.Shell
