import RuntimeLauncher.Text.Character
import RuntimeLauncher.Yaml.Token

/-!
# Reading scalars

A scalar is written between quotes, as a block below an indicator, or plainly. This module reads the
text of each of the three kinds.

## Main Definitions

* `Gap` — blanks and line ends between two words of a scalar, and how they are folded
* `readQuoted`, `readBlock`, `readPlain` — the three readers

## Design Notes

Inside quotes and in plain scalars a line's end counts as one space, and empty lines keep their line
ends. In a block the style and the blanks at a line's start decide. Each loop is given as many turns
as there are characters left, and every turn uses up a character.
-/

namespace RuntimeLauncher.Yaml

/-- Blanks and line ends between two words. -/
structure Gap where
  /-- Blanks before the first line's end. -/
  blanks : List Char
  /-- The first line's end. -/
  first : List Char
  /-- The line ends after it. -/
  more : List Char
  /-- A line ended in the gap. -/
  broken : Bool

namespace Gap

/-- No gap. -/
def none : Gap := ⟨[], [], [], false⟩

/-- What a gap stands for between its two words. -/
def folded (gap : Gap) : List Char :=
  if gap.broken then
    if gap.first.head? == some '\n' then (if gap.more.isEmpty then [' '] else gap.more)
    else gap.first ++ gap.more
  else gap.blanks

/-- Reads on to the next word. A tab on a later line before column `tabLimit` is refused. -/
def read (tabLimit : Nat) (start : Mark) : Nat → Gap → Cursor → Except SyntaxError (Gap × Cursor)
  | 0, gap, cursor => .ok (gap, cursor)
  | fuel + 1, gap, cursor =>
    if cursor.next isBlank then
      if gap.broken && cursor.mark.column < tabLimit && cursor.sees '\t' then
        .error (.during "while scanning a plain scalar" start
          "found a tab character that violates indentation" cursor.mark)
      else if gap.broken then read tabLimit start fuel gap cursor.advance
      else
        read tabLimit start fuel
          { gap with blanks := gap.blanks ++ cursor.rest.take 1 } cursor.advance
    else if cursor.next isBreak then
      let ending := cursor.lineText
      if gap.broken then
        read tabLimit start fuel { gap with more := gap.more ++ ending } cursor.advanceLine
      else
        read tabLimit start fuel ⟨[], ending, gap.more, true⟩ cursor.advanceLine
    else .ok (gap, cursor)

end Gap

/-! ### Quoted scalars -/

/-- The character that a one-letter escape stands for. -/
def escapeOf? (c : Char) : Option Char :=
  match c with
  | '0' => some '\x00'
  | 'a' => some '\x07'
  | 'b' => some '\x08'
  | 't' => some '\t'
  | '\t' => some '\t'
  | 'n' => some '\n'
  | 'v' => some '\x0b'
  | 'f' => some '\x0c'
  | 'r' => some '\r'
  | 'e' => some '\x1b'
  | ' ' => some ' '
  | '"' => some '"'
  | '/' => some '/'
  | '\\' => some '\\'
  | 'N' => some '\u0085'
  | '_' => some '\u00a0'
  | 'L' => some '\u2028'
  | 'P' => some '\u2029'
  | _ => none

/-- The number of hexadecimal digits after an escape. -/
def escapeWidth? (c : Char) : Option Nat :=
  match c with
  | 'x' => some 2
  | 'u' => some 4
  | 'U' => some 8
  | _ => none

/-- The value of exactly `n` hexadecimal digits. -/
def hexNumber? (value : Nat) : Nat → List Char → Option Nat
  | 0, _ => some value
  | _ + 1, [] => none
  | n + 1, c :: cs =>
    match Text.digitValue? c with
    | some d => hexNumber? (16 * value + d) n cs
    | none => none

/-- Reads an escape that does not end a line. The cursor stands on the backslash. -/
def readEscape (start : Mark) (cursor : Cursor) : Except SyntaxError (Char × Cursor) :=
  let fail := fun (problem : String) (there : Cursor) =>
    Except.error (SyntaxError.during "while parsing a quoted scalar" start problem there.mark)
  match cursor.peek 1 with
  | none => fail "found unknown escape character" cursor
  | some c =>
    match escapeOf? c with
    | some d => .ok (d, cursor.skip 2)
    | none =>
      match escapeWidth? c with
      | none => fail "found unknown escape character" cursor
      | some width =>
        let digits := cursor.skip 2
        match hexNumber? 0 width digits.rest with
        | none => fail "did not find expected hexadecimal number" digits
        | some value =>
          if value.isValidChar then .ok (Char.ofNat value, digits.skip width)
          else fail "found invalid Unicode character escape code" digits

/-- Reads the characters of one word inside quotes onto those before it, last first. The flag tells
that an escaped line's end followed the word. -/
def readQuotedWord (single : Bool) (start : Mark) :
    Nat → List Char → Cursor → Except SyntaxError (List Char × Cursor × Bool)
  | 0, word, cursor => .ok (word, cursor, false)
  | fuel + 1, word, cursor =>
    match cursor.rest with
    | [] => .ok (word, cursor, false)
    | c :: rest =>
      if isBlank c || isBreak c then .ok (word, cursor, false)
      else if single && c == '\'' then
        if rest.head? == some '\'' then
          readQuotedWord single start fuel ('\'' :: word) (cursor.skip 2)
        else .ok (word, cursor, false)
      else if !single && c == '"' then .ok (word, cursor, false)
      else if !single && c == '\\' then
        if (rest.head?.map isBreak).getD false then
          .ok (word, cursor.advance.advanceLine, true)
        else
          match readEscape start cursor with
          | .error e => .error e
          | .ok (d, cursor) => readQuotedWord single start fuel (d :: word) cursor
      else readQuotedWord single start fuel (c :: word) cursor.advance

/-- Reads words and gaps up to the closing quote onto those before them, last first. -/
def readQuotedWords (single : Bool) (start : Mark) :
    Nat → List Char → Cursor → Except SyntaxError (List Char × Cursor)
  | 0, text, cursor => .ok (text, cursor)
  | fuel + 1, text, cursor =>
    let context := "while scanning a quoted scalar"
    if cursor.atDocumentMark then
      .error (.during context start "found unexpected document indicator" cursor.mark)
    else if cursor.atEnd then
      .error (.during context start "found unexpected end of stream" cursor.mark)
    else
      match readQuotedWord single start (fuel + 1) text cursor with
      | .error e => .error e
      | .ok (text, cursor, broken) =>
        if cursor.sees (if single then '\'' else '"') then .ok (text, cursor.advance)
        else
          match Gap.read 0 start (fuel + 1) { Gap.none with broken } cursor with
          | .error e => .error e
          | .ok (gap, cursor) =>
            readQuotedWords single start fuel (gap.folded.reverse ++ text) cursor

/-- Reads a quoted scalar. The cursor stands on the opening quote. -/
def readQuoted (single : Bool) (cursor : Cursor) : Except SyntaxError (Lexeme × Cursor) := do
  let start := cursor.mark
  let (text, after) ←
    readQuotedWords single start (cursor.rest.length + 1) [] cursor.advance
  let style := if single then ScalarStyle.singleQuoted else .doubleQuoted
  pure (⟨.scalar (String.ofList text.reverse) style, start, after.mark⟩, after)

/-! ### Plain scalars -/

/-- Characters that end a plain scalar inside a flow collection. -/
def isFlowIndicator (c : Char) : Bool :=
  c == ',' || c == '[' || c == ']' || c == '\x7b' || c == '\x7d'

/-- Reads the characters of one word of a plain scalar onto those before it, last first. -/
def readPlainWord (flow : Bool) (start : Mark) :
    Nat → List Char → Cursor → Except SyntaxError (List Char × Cursor)
  | 0, word, cursor => .ok (word, cursor)
  | fuel + 1, word, cursor =>
    match cursor.rest with
    | [] => .ok (word, cursor)
    | c :: rest =>
      if isBlank c || isBreak c then .ok (word, cursor)
      else if flow && c == ':' &&
          ((rest.head?.map fun d => isFlowIndicator d || d == '?').getD false) then
        .error (.during "while scanning a plain scalar" start "found unexpected ':'" cursor.mark)
      else if (c == ':' && cursor.spaceAt 1) || (flow && isFlowIndicator c) then
        .ok (word, cursor)
      else readPlainWord flow start fuel (c :: word) cursor.advance

/-- A plain scalar with the place after its last word. -/
structure PlainText where
  /-- The characters, last first. -/
  text : List Char
  stop : Mark
  /-- A line ended after the last word. -/
  broken : Bool
  cursor : Cursor

/-- Reads words and gaps of a plain scalar. The gap before a word counts only if the word is not
empty. -/
def readPlainWords (flow : Bool) (indent : Nat) (start : Mark) :
    Nat → List Char → Gap → Mark → Cursor → Except SyntaxError PlainText
  | 0, text, gap, stop, cursor => .ok ⟨text, stop, gap.broken, cursor⟩
  | fuel + 1, text, gap, stop, cursor =>
    if cursor.atDocumentMark || cursor.sees '#' then .ok ⟨text, stop, gap.broken, cursor⟩
    else
      match readPlainWord flow start (fuel + 1) (gap.folded.reverse ++ text) cursor with
      | .error e => .error e
      | .ok (longer, after) =>
        let bare := after.mark = cursor.mark
        let joined := if bare then text else longer
        let rest := if bare then gap else Gap.none
        let stop := if bare then stop else after.mark
        if !after.next fun c => isBlank c || isBreak c then
          .ok ⟨joined, stop, rest.broken, after⟩
        else
          match Gap.read indent start (fuel + 1) rest after with
          | .error e => .error e
          | .ok (gap, cursor) =>
            if !flow && cursor.mark.column < indent then .ok ⟨joined, stop, gap.broken, cursor⟩
            else readPlainWords flow indent start fuel joined gap stop cursor

/-- Reads a plain scalar. The flag tells that a line ended after it. -/
def readPlain (flow : Bool) (indent : Nat) (cursor : Cursor) :
    Except SyntaxError (Lexeme × Bool × Cursor) := do
  let start := cursor.mark
  let plain ←
    readPlainWords flow indent start (cursor.rest.length + 1) [] Gap.none start cursor
  let token := Token.scalar (String.ofList plain.text.reverse) .plain
  pure (⟨token, start, plain.stop⟩, plain.broken, plain.cursor)

/-! ### Block scalars -/

/-- What becomes of the line ends at the end of a block. -/
inductive Chomping where
  | strip
  | clip
  | keep
deriving DecidableEq

/-- The chomping that an indicator asks for. -/
def chompingOf? (c : Char) : Option Chomping :=
  if c == '+' then some .keep else if c == '-' then some .strip else none

/-- The header of a block: chomping, indentation if given, and the cursor after both. -/
def readBlockHeader (start : Mark) (cursor : Cursor) :
    Except SyntaxError (Chomping × Option Nat × Cursor) :=
  let digit := fun (cursor : Cursor) =>
    match cursor.rest with
    | c :: _ => if '0' ≤ c ∧ c ≤ '9' then some (c.toNat - '0'.toNat) else none
    | [] => none
  let mark := fun (cursor : Cursor) => cursor.rest.head?.bind chompingOf?
  let zero := fun (cursor : Cursor) =>
    Except.error (SyntaxError.during "while scanning a block scalar" start
      "found an indentation indicator equal to 0" cursor.mark)
  match mark cursor with
  | some chomping =>
    match digit cursor.advance with
    | some 0 => zero cursor.advance
    | some n => .ok (chomping, some n, cursor.skip 2)
    | none => .ok (chomping, none, cursor.advance)
  | none =>
    match digit cursor with
    | some 0 => zero cursor
    | some n =>
      match mark cursor.advance with
      | some chomping => .ok (chomping, some n, cursor.skip 2)
      | none => .ok (.clip, some n, cursor.advance)
    | none => .ok (.clip, none, cursor)

/-- Line ends before a line of a block, and where that line starts. -/
structure BlockGap where
  breaks : List Char
  /-- The widest indentation seen. -/
  widest : Nat
  /-- The place after the last line's end. -/
  stop : Mark
  cursor : Cursor

/-- Reads indentation and empty lines. The indentation is zero as long as it is not known. -/
def readBlockGap (indent : Nat) (start : Mark) :
    Nat → BlockGap → Except SyntaxError BlockGap
  | 0, gap => .ok gap
  | fuel + 1, gap =>
    let spaces := (gap.cursor.rest.takeWhile (· == ' ')).length
    let count := if indent = 0 then spaces else min spaces (indent - gap.cursor.mark.column)
    let cursor := gap.cursor.skip count
    let widest := max gap.widest cursor.mark.column
    if (indent = 0 || cursor.mark.column < indent) && cursor.sees '\t' then
      .error (.during "while scanning a block scalar" start
        "found a tab character where an indentation space is expected" cursor.mark)
    else if cursor.next isBreak then
      let after := cursor.advanceLine
      readBlockGap indent start fuel
        ⟨gap.breaks ++ cursor.lineText, widest, after.mark, after⟩
    else .ok { gap with widest, cursor }

/-- A block read so far. -/
structure BlockText where
  /-- The characters, last first. -/
  text : List Char
  /-- The line's end after the text, not yet part of it. -/
  first : List Char
  /-- The line ends after that. -/
  more : List Char
  /-- The last line began with a blank. -/
  blankLine : Bool
  stop : Mark
  cursor : Cursor

/-- Reads the lines of a block. -/
def readBlockLines (folded : Bool) (indent : Nat) (start : Mark) :
    Nat → BlockText → Except SyntaxError BlockText
  | 0, block => .ok block
  | fuel + 1, block =>
    let cursor := block.cursor
    if cursor.mark.column ≠ indent || cursor.atEnd then .ok block
    else
      let blank := cursor.next isBlank
      let joint :=
        if folded && block.first.head? == some '\n' && !block.blankLine && !blank then
          if block.more.isEmpty then [' '] else block.more
        else block.first ++ block.more
      let (line, after) := cursor.span fun c => !isBreak c
      let ending := after.lineText
      let below := after.advanceLine
      match readBlockGap indent start (fuel + 1) ⟨[], 0, below.mark, below⟩ with
      | .error e => .error e
      | .ok gap =>
        readBlockLines folded indent start fuel
          ⟨line.reverse ++ (joint.reverse ++ block.text), ending, gap.breaks, blank, gap.stop,
            gap.cursor⟩

/-- Reads a block scalar inside a block with the given indentation, or outside of any. The cursor
stands on the indicator. -/
def readBlock (folded : Bool) (parent : Option Nat) (cursor : Cursor) :
    Except SyntaxError (Lexeme × Cursor) := do
  let start := cursor.mark
  let (chomping, increment, cursor) ← readBlockHeader start cursor.advance
  let cursor := cursor.skipBlanks.skipComment
  if !cursor.atLineEnd then
    throw (.during "while scanning a block scalar" start
      "did not find expected comment or line break" cursor.mark)
  let cursor := cursor.advanceLine
  let given := (increment.map fun n => parent.getD 0 + n).getD 0
  let gap ← readBlockGap given start (cursor.rest.length + 1) ⟨[], 0, cursor.mark, cursor⟩
  let least := (parent.map (· + 1)).getD 0
  let indent := if given = 0 then max (max gap.widest least) 1 else given
  let block ← readBlockLines folded indent start (cursor.rest.length + 1)
    ⟨[], [], gap.breaks, false, gap.stop, gap.cursor⟩
  let tail :=
    match chomping with
    | .strip => []
    | .clip => block.first
    | .keep => block.first ++ block.more
  let style := if folded then ScalarStyle.folded else .literal
  let token := Token.scalar (String.ofList (block.text.reverse ++ tail)) style
  pure (⟨token, start, block.stop⟩, block.cursor)

end RuntimeLauncher.Yaml
