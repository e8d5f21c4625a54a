/-!
# Places in a YAML text

## Main Definitions

* `Yaml.Mark` — a place in a text
* `Yaml.Cursor` — the text from a place on
* `Yaml.Cursor.advance`, `Yaml.Cursor.advanceLine`, `Yaml.Cursor.span` — moves of a cursor

## Design Notes

Lines and columns count from zero and are shown from one. A column counts characters and the index
counts bytes, so a place can be found in the file by either. A line ends with a line feed, a
carriage return, both in that order, or one of the three line separators beyond ASCII.
-/

namespace RuntimeLauncher.Yaml

/-- A place in a text, counted from zero. -/
structure Mark where
  /-- Bytes before the place. -/
  index : Nat
  /-- Lines before the place. -/
  line : Nat
  /-- Characters before the place on its line. -/
  column : Nat
deriving DecidableEq

namespace Mark

/-- The start of a text. -/
def start : Mark := ⟨0, 0, 0⟩

/-- The place is the first of the first line. -/
def isOrigin (mark : Mark) : Bool := mark.line == 0 && mark.column == 0

/-- Line and column, counted from one. -/
def text (mark : Mark) : String :=
  if mark.isOrigin then "position " ++ toString mark.index
  else "line " ++ toString (mark.line + 1) ++ " column " ++ toString (mark.column + 1)

end Mark

/-! ### Classes of characters -/

/-- A character that ends a line. -/
def isBreak (c : Char) : Bool :=
  c == '\n' || c == '\r' || c == '\u0085' || c == '\u2028' || c == '\u2029'

/-- A blank inside a line. -/
def isBlank (c : Char) : Bool := c == ' ' || c == '\t'

/-- A character of an anchor or a directive's name. -/
def isWordChar (c : Char) : Bool := c.isAlphanum || c == '_' || c == '-'

/-- A character that a text may hold at all. -/
def isAllowed (c : Char) : Bool :=
  let n := c.toNat
  c == '\t' || c == '\n' || c == '\r' || (0x20 ≤ n && n ≤ 0x7e) || n == 0x85 ||
    (0xa0 ≤ n && n ≤ 0xd7ff) || (0xe000 ≤ n && n ≤ 0xfffd) || 0x10000 ≤ n

/-! ### Cursors -/

/-- The rest of a text and where it starts. -/
structure Cursor where
  rest : List Char
  mark : Mark

namespace Cursor

/-- The character `n` places ahead. -/
def peek (cursor : Cursor) (n : Nat) : Option Char := cursor.rest[n]?

/-- The next character is this one. -/
def sees (cursor : Cursor) (c : Char) : Bool := cursor.rest.head? == some c

/-- The text has ended. -/
def atEnd (cursor : Cursor) : Bool := cursor.rest.isEmpty

/-- The next character satisfies a test. -/
def next (cursor : Cursor) (test : Char → Bool) : Bool :=
  match cursor.rest with
  | c :: _ => test c
  | [] => false

/-- `n` places ahead stands a blank, a line's end or the text's end. -/
def spaceAt (cursor : Cursor) (n : Nat) : Bool :=
  match cursor.peek n with
  | some c => isBlank c || isBreak c
  | none => true

/-- Here stands a line's end or the text's end. -/
def atLineEnd (cursor : Cursor) : Bool := cursor.atEnd || cursor.next isBreak

/-- A mark after one more character of its line. -/
def passed (mark : Mark) (c : Char) : Mark :=
  ⟨mark.index + c.utf8Size, mark.line, mark.column + 1⟩

/-- Moves over one character of a line. -/
def advance (cursor : Cursor) : Cursor :=
  match cursor.rest with
  | c :: rest => ⟨rest, passed cursor.mark c⟩
  | [] => cursor

/-- Moves over `n` characters of a line. -/
def skip (cursor : Cursor) : Nat → Cursor
  | 0 => cursor
  | n + 1 => cursor.advance.skip n

/-- Moves over one line's end, if one stands here. -/
def advanceLine (cursor : Cursor) : Cursor :=
  match cursor.rest with
  | '\r' :: '\n' :: rest => ⟨rest, ⟨cursor.mark.index + 2, cursor.mark.line + 1, 0⟩⟩
  | c :: rest =>
    if isBreak c then ⟨rest, ⟨cursor.mark.index + c.utf8Size, cursor.mark.line + 1, 0⟩⟩
    else cursor
  | [] => cursor

/-- The text of a line's end: a line feed, unless it is one of the two that keep their form. -/
def lineText (cursor : Cursor) : List Char :=
  match cursor.rest with
  | c :: _ =>
    if c == '\u2028' || c == '\u2029' then [c] else if isBreak c then ['\n'] else []
  | [] => []

/-- The longest run of characters that satisfy a test, and the cursor after it. The test must fail
on the characters that end lines. -/
def span (cursor : Cursor) (test : Char → Bool) : List Char × Cursor :=
  let run := cursor.rest.takeWhile test
  (run, ⟨cursor.rest.dropWhile test, run.foldl passed cursor.mark⟩)

/-- Moves over blanks. -/
def skipBlanks (cursor : Cursor) : Cursor := (cursor.span isBlank).2

/-- Moves to the end of the line. -/
def skipLine (cursor : Cursor) : Cursor := (cursor.span fun c => !isBreak c).2

/-- Moves over a comment, if one starts here. -/
def skipComment (cursor : Cursor) : Cursor := if cursor.sees '#' then cursor.skipLine else cursor

/-- Here starts a line with three times the character and a space after it. -/
def atTriple (cursor : Cursor) (c : Char) : Bool :=
  cursor.mark.column == 0 && cursor.peek 0 == some c && cursor.peek 1 == some c &&
    cursor.peek 2 == some c && cursor.spaceAt 3

/-- Here stands a line that starts or ends a document. -/
def atDocumentMark (cursor : Cursor) : Bool := cursor.atTriple '-' || cursor.atTriple '.'

end Cursor

end RuntimeLauncher.Yaml
