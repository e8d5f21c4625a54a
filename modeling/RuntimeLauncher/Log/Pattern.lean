import RuntimeLauncher.Text.Character

/-!
# Patterns for the values of fields

A rule for the log may ask for a field whose value matches a regular expression. No event of this
program has such a value, so nothing is ever matched. But a rule with a broken pattern is no rule,
and so patterns have to be checked.

## Main Definitions

* `Pattern.Mode` — how the characters of a pattern are taken
* `Pattern.Item` — what a character or an escape stands for
* `Pattern.readClass` — a class of characters in brackets
* `Pattern.Reader`, `Pattern.Reader.step` — a pattern read so far, and its next part
* `Pattern.isValid` — the check

## Design Notes

A closing brace cannot stand in a pattern, because it would end the pattern's field. So nothing that
needs braces can be written, and an opening brace is refused outside of a class. Patterns are run on
bytes and in one pass: edges of words beyond ASCII, looking around and referring back are refused.
Where characters are bytes, everything is refused that could match a byte outside of ASCII.
-/

namespace RuntimeLauncher.Log.Pattern

/-- How the characters of a pattern are taken. -/
structure Mode where
  /-- Blanks and comments do not count. -/
  spaced : Bool
  /-- Characters are code points and not bytes. -/
  wide : Bool

/-- Moves over blanks and comments. The flag tells that a comment has begun. -/
def skipSpace : Bool → List Char → List Char
  | _, [] => []
  | true, c :: cs => skipSpace (c != '\n') cs
  | false, c :: cs =>
    if c == '#' then skipSpace true cs
    else if Text.isBlank c then skipSpace false cs
    else c :: cs

/-- Moves to the next character that counts. -/
def Mode.skip (mode : Mode) (cs : List Char) : List Char :=
  if mode.spaced then skipSpace false cs else cs

/-- What a character or an escape stands for. -/
inductive Item where
  | char (c : Char)
  /-- One of several characters. -/
  | set
  /-- A place between characters. -/
  | place

/-! ### Escapes -/

/-- Reads a number with as many hexadecimal digits as are asked for. -/
def readHex (mode : Mode) : Nat → Nat → List Char → Option (Nat × List Char)
  | 0, value, cs => some (value, cs)
  | n + 1, value, cs =>
    match mode.skip cs with
    | [] => none
    | c :: rest =>
      (Text.digitValue? c).bind fun digit => readHex mode n (16 * value + digit) rest

/-- The letters before a code point, and the number of its digits. -/
def hexWidths : List (Char × Nat) := [('x', 2), ('u', 4), ('U', 8)]

/-- The letters that stand for control characters. -/
def controls : List (Char × Char) :=
  [('a', '\x07'), ('f', '\x0c'), ('t', '\t'), ('n', '\n'), ('r', '\r'), ('v', '\x0b')]

/-- A character that a backslash makes stand for itself. -/
def isEscapable (c : Char) : Bool :=
  c.toNat < 0x80 && !c.isAlphanum && c != '<' && c != '>'

/-- The letters of the general categories. -/
def categories : List Char := "CLMNPSZclmnpsz".toList

/-- Reads an escape from the character after its backslash. -/
def readEscape (mode : Mode) : List Char → Option (Item × List Char)
  | [] => none
  | c :: rest =>
    match hexWidths.lookup c, controls.lookup c with
    | some width, _ =>
      (readHex mode width 0 rest).bind fun (n, rest) =>
        if n.isValidChar && (mode.wide || c != 'x' || n < 0x80) then
          some (.char (Char.ofNat n), rest)
        else none
    | none, some control => some (.char control, rest)
    | none, none =>
      if c == 'p' || c == 'P' then
        match mode.skip rest with
        | name :: rest =>
          if mode.wide && categories.contains name then some (.set, rest) else none
        | [] => none
      else if c == 'd' || c == 's' || c == 'w' then some (.set, rest)
      else if c == 'D' || c == 'S' || c == 'W' then if mode.wide then some (.set, rest) else none
      else if c == 'A' || c == 'z' then some (.place, rest)
      else if c == 'b' || c == 'B' || c == '<' || c == '>' then
        if mode.wide then none else some (.place, rest)
      else if isEscapable c then some (.char c, rest)
      else none

/-! ### Classes -/

/-- The names of classes of ASCII characters. -/
def classNames : List String :=
  ["alnum", "alpha", "ascii", "blank", "cntrl", "digit", "graph", "lower", "print", "punct",
    "space", "upper", "word", "xdigit"]

/-- Moves over the name of a class from the character after its bracket. What does not have the form
of a name is not taken for one. -/
def skipClassName? (mode : Mode) : List Char → Option (List Char)
  | ':' :: rest =>
    let negated := rest.head? == some '^'
    let rest := if negated then rest.drop 1 else rest
    let name := rest.takeWhile (· != ':')
    match rest.drop name.length with
    | ':' :: ']' :: after =>
      if classNames.contains (String.ofList name) && (mode.wide || !negated) then some after
      else none
    | _ => none
  | _ => none

/-- Moves over the dashes at the start of a class. -/
def skipDashes (mode : Mode) : Nat → List Char → List Char
  | 0, cs => cs
  | fuel + 1, cs =>
    match cs with
    | '-' :: rest => skipDashes mode fuel (mode.skip rest)
    | _ => cs

/-- Moves over the start of a class from the character after its bracket: a caret, dashes, or a
closing bracket that does not close it. -/
def openClass (mode : Mode) (cs : List Char) : Option (List Char) :=
  let cs := mode.skip cs
  let negated := cs.head? == some '^'
  let cs := if negated then mode.skip (cs.drop 1) else cs
  let after := skipDashes mode cs.length cs
  let after :=
    if after.length == cs.length && after.head? == some ']' then mode.skip (after.drop 1)
    else after
  if after.isEmpty || (negated && !mode.wide) then none else some after

/-- Reads a character or an escape inside a class. -/
def readMember (mode : Mode) : List Char → Option (Item × List Char)
  | [] => none
  | '\\' :: rest => readEscape mode rest
  | c :: rest => if mode.wide || c.toNat < 0x80 then some (.char c, rest) else none

/-- Reads a member of a class, or a range from one character to another. -/
def readRange (mode : Mode) (cs : List Char) : Option (List Char) := do
  let (first, rest) ← readMember mode cs
  let rest := mode.skip rest
  let next := (mode.skip (rest.drop 1)).head?
  if rest.head? != some '-' || next == some ']' || next == some '-' then
    match first with
    | .place => none
    | _ => pure rest
  else
    let (last, rest) ← readMember mode (mode.skip (rest.drop 1))
    match first, last with
    | .char a, .char b => if a ≤ b then pure rest else none
    | _, _ => none

/-- Reads a class inside `depth` others to the bracket that closes it. -/
def readClass (mode : Mode) : Nat → Nat → List Char → Option (List Char)
  | 0, _, _ => none
  | fuel + 1, depth, cs =>
    match mode.skip cs with
    | [] => none
    | '[' :: rest =>
      match skipClassName? mode rest with
      | some after => readClass mode fuel depth after
      | none => (openClass mode rest).bind (readClass mode fuel (depth + 1))
    | ']' :: rest => if depth = 0 then some rest else readClass mode fuel (depth - 1) rest
    | '&' :: '&' :: rest => readClass mode fuel depth rest
    | '-' :: '-' :: rest => readClass mode fuel depth rest
    | '~' :: '~' :: rest => readClass mode fuel depth rest
    | cs => (readRange mode cs).bind (readClass mode fuel depth)

/-! ### Groups -/

/-- A pattern read so far. -/
structure Reader where
  mode : Mode
  /-- Directly before stands something that can be repeated. -/
  operand : Bool
  /-- The modes around the open groups, innermost first. -/
  outer : List Mode
  /-- The names that groups have been given. -/
  names : List (List Char)

/-- A mode with one letter of the flags switched. -/
def Mode.switch? (mode : Mode) (letter : Char) (value : Bool) : Option Mode :=
  if letter == 'x' then some { mode with spaced := value }
  else if letter == 'u' then some { mode with wide := value }
  else if "imsUR".toList.contains letter then some mode
  else none

/-- Flags of a group. -/
structure Flags where
  mode : Mode
  /-- The flags are for a group, and not for all that follows. -/
  grouping : Bool
  rest : List Char

/-- Reads flags, each at most once. -/
def readFlags (mode : Mode) (seen : List Char) : List Char → Option Flags
  | [] => none
  | c :: rest =>
    if c == ':' || c == ')' then
      if seen.head? == some '-' || (c == ')' && seen.isEmpty) then none
      else some ⟨mode, c == ':', rest⟩
    else if seen.contains c then none
    else if c == '-' then readFlags mode (c :: seen) rest
    else
      match mode.switch? c (!seen.contains '-') with
      | some mode => readFlags mode (c :: seen) rest
      | none => none

/-- A name that a group can be given. -/
def isGroupName : List Char → Bool
  | [] => false
  | c :: rest =>
    (c == '_' || Text.isLetter c) &&
      rest.all fun d => d == '_' || d == '.' || d == '[' || d == ']' || Text.isLetterOrNumber d

namespace Reader

/-- Nothing is read. -/
def start : Reader := ⟨⟨false, true⟩, false, [], []⟩

/-- Something that can be repeated is read. -/
def put (reader : Reader) : Reader := { reader with operand := true }

/-- A group begins. -/
def openGroup (reader : Reader) (mode : Mode) : Reader :=
  { reader with mode, operand := false, outer := reader.mode :: reader.outer }

/-- Begins a group with a name. -/
def openNamed (reader : Reader) (cs : List Char) : Option (Reader × List Char) :=
  let name := cs.takeWhile (· != '>')
  if isGroupName name && name.length < cs.length && !reader.names.contains name then
    some ({ reader.openGroup reader.mode with names := name :: reader.names },
      cs.drop (name.length + 1))
  else none

/-- Reads what stands after an opening parenthesis. -/
def readOpening (reader : Reader) (cs : List Char) : Option (Reader × List Char) :=
  match reader.mode.skip cs with
  | '?' :: '!' :: _ => none
  | '?' :: '<' :: '!' :: _ => none
  | '?' :: 'P' :: '<' :: rest => reader.openNamed rest
  | '?' :: '<' :: rest => reader.openNamed rest
  | '?' :: rest =>
    (readFlags reader.mode [] rest).map fun flags =>
      if flags.grouping then (reader.openGroup flags.mode, flags.rest)
      else ({ reader with mode := flags.mode, operand := false }, flags.rest)
  | rest => some (reader.openGroup reader.mode, rest)

/-- Reads the part of a pattern that starts with a character. -/
def step (reader : Reader) (c : Char) (rest : List Char) : Option (Reader × List Char) :=
  match c with
  | '(' => reader.readOpening rest
  | ')' =>
    match reader.outer with
    | [] => none
    | mode :: outer => some ({ reader.put with mode, outer }, rest)
  | '|' => some ({ reader with operand := false }, rest)
  | '[' =>
    (openClass reader.mode rest).bind fun cs =>
      (readClass reader.mode (cs.length + 1) 0 cs).map fun rest => (reader.put, rest)
  | '\\' => (readEscape reader.mode rest).map fun (_, rest) => (reader.put, rest)
  | '.' => if reader.mode.wide then some (reader.put, rest) else none
  | '\x7b' => none
  | c =>
    if c == '?' || c == '*' || c == '+' then
      if reader.operand then some (reader, if rest.head? == some '?' then rest.drop 1 else rest)
      else none
    else some (reader.put, rest)

/-- Reads to the end of a pattern, where every group must be closed. -/
def accepts : Nat → Reader → List Char → Bool
  | 0, _, _ => false
  | fuel + 1, reader, cs =>
    match reader.mode.skip cs with
    | [] => reader.outer.isEmpty
    | c :: rest =>
      match reader.step c rest with
      | some (reader, rest) => accepts fuel reader rest
      | none => false

end Reader

/-- The text is a pattern that can be run. -/
def isValid (text : List Char) : Bool := Reader.start.accepts (text.length + 1) text

end RuntimeLauncher.Log.Pattern
