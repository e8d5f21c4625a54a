import RuntimeLauncher.Yaml.Token.Property

/-!
# From text to tokens

## Main Definitions

* `Lexer` — the text that is left, with indentation, open brackets and tokens not yet handed out
* `Barrier` — the place where a text stops being readable
* `Lexer.fetch` — reads one more token from the text
* `Lexer.next` — hands out one token
* `tokensOf` — all tokens of a text, and the error that stopped the reading

## Design Notes

A key of a mapping need not be announced: whether a scalar is a key shows only at the colon after
it. So a place where a key may start is remembered as a `Candidate`, one for each open bracket, and
the tokens from there on wait until the candidate is confirmed or has expired. It expires at the end
of its line or after 1024 bytes. Inside a block, a scalar at the column of the block can only be a
key, so its candidate is required and must not expire.

Indentation matters outside brackets only. A deeper column opens a block collection and a shallower
one closes all that are deeper.

A text is taken in by portions, and all characters of a portion are checked together. So a character
that no text may hold is a barrier at the start of its portion, and what stands before that is read.
-/

namespace RuntimeLauncher.Yaml

/-- A place where a key may have started. -/
structure Candidate where
  /-- What starts here cannot be anything but a key. -/
  required : Bool
  /-- The number of the token that starts here. -/
  number : Nat
  mark : Mark

/-- A place that a text cannot be read beyond. -/
structure Barrier where
  /-- The bytes before the place. -/
  index : Nat
  failure : SyntaxError

/-- A text on its way to tokens. -/
structure Lexer where
  cursor : Cursor
  barrier : Option Barrier
  /-- Tokens that are read but not handed out. -/
  queue : List Lexeme
  /-- How many tokens were handed out. -/
  handed : Nat
  started : Bool
  /-- How many brackets are open. -/
  depth : Nat
  /-- The candidate of each open bracket, innermost first, and of the text outside. -/
  candidates : List (Option Candidate)
  /-- A key may start here without being announced. -/
  keyAllowed : Bool
  /-- The column of the innermost block collection. -/
  indent : Option Nat
  /-- The columns of the block collections around it. -/
  outer : List (Option Nat)

namespace Lexer

/-- A lexer at the start of a text. -/
def ofText (text : List Char) (barrier : Option Barrier) : Lexer where
  cursor := ⟨text, Mark.start⟩
  barrier := barrier
  queue := []
  handed := 0
  started := false
  depth := 0
  candidates := [none]
  keyAllowed := true
  indent := none
  outer := []

/-- A bracket is open. -/
def inFlow (lexer : Lexer) : Bool := lexer.depth != 0

/-- Adds a token at the end of the queue. -/
def push (lexer : Lexer) (lexeme : Lexeme) : Lexer :=
  { lexer with queue := lexer.queue ++ [lexeme] }

/-- Adds a token before the one with a number. -/
def insert (lexer : Lexer) (number : Nat) (lexeme : Lexeme) : Lexer :=
  let i := number - lexer.handed
  { lexer with queue := lexer.queue.take i ++ lexeme :: lexer.queue.drop i }

/-! ### Candidates -/

/-- The error for a required key without its colon. -/
def missingColon (lexer : Lexer) (start : Mark) : SyntaxError :=
  .during "while scanning a simple key" start "could not find expected ':'" lexer.cursor.mark

/-- A candidate has expired at a place. -/
def expired (candidate : Candidate) (mark : Mark) : Bool :=
  candidate.mark.line < mark.line || candidate.mark.index + 1024 < mark.index

/-- Drops the candidates that have expired, outermost first. -/
def dropExpired (lexer : Lexer) : Except SyntaxError Lexer := do
  let mark := lexer.cursor.mark
  let late := fun (slot : Option Candidate) =>
    match slot with
    | some candidate => expired candidate mark
    | none => false
  match (lexer.candidates.reverse.filterMap id).find? fun c => expired c mark && c.required with
  | some candidate => throw (lexer.missingColon candidate.mark)
  | none =>
    pure { lexer with
      candidates := lexer.candidates.map fun slot => if late slot then none else slot }

/-- Gives up the innermost candidate. -/
def dropCandidate (lexer : Lexer) : Except SyntaxError Lexer :=
  match lexer.candidates with
  | some candidate :: rest =>
    if candidate.required then .error (lexer.missingColon candidate.mark)
    else .ok { lexer with candidates := none :: rest }
  | _ => .ok lexer

/-- Remembers that a key may start here. -/
def markCandidate (lexer : Lexer) : Except SyntaxError Lexer := do
  if !lexer.keyAllowed then pure lexer
  else
    let column := lexer.cursor.mark.column
    let candidate : Candidate :=
      { required := !lexer.inFlow && lexer.indent == some column
        number := lexer.handed + lexer.queue.length
        mark := lexer.cursor.mark }
    let lexer ← lexer.dropCandidate
    pure { lexer with candidates := some candidate :: lexer.candidates.drop 1 }

/-! ### Indentation -/

/-- Opens a block collection if the column is deeper than the innermost one. -/
def roll (lexer : Lexer) (column : Nat) (number : Option Nat) (token : Token) (mark : Mark) :
    Lexer :=
  let deeper : Bool :=
    match lexer.indent with
    | none => true
    | some i => decide (i < column)
  if lexer.inFlow || !deeper then lexer
  else
    let lexeme : Lexeme := ⟨token, mark, mark⟩
    let lexer := { lexer with indent := some column, outer := lexer.indent :: lexer.outer }
    match number with
    | none => lexer.push lexeme
    | some n => lexer.insert n lexeme

/-- The columns left when all collections deeper than a column are closed, and how many closed. -/
def closing (column : Option Nat) (indent : Option Nat) :
    List (Option Nat) → Nat × Option Nat × List (Option Nat)
  | [] => (0, indent, [])
  | above :: outer =>
    let deeper : Bool :=
      match indent, column with
      | some i, some c => decide (c < i)
      | some _, none => true
      | none, _ => false
    if deeper then
      let (n, indent, outer) := closing column above outer
      (n + 1, indent, outer)
    else (0, indent, above :: outer)

/-- Closes all block collections deeper than a column, or all there are. -/
def unroll (lexer : Lexer) (column : Option Nat) : Lexer :=
  if lexer.inFlow then lexer
  else
    let (n, indent, outer) := closing column lexer.indent lexer.outer
    let mark := lexer.cursor.mark
    { lexer with
      indent, outer
      queue := lexer.queue ++ List.replicate n ⟨.blockEnd, mark, mark⟩ }

/-! ### Reading one token -/

/-- Moves over blanks, comments and line ends. A tab is a blank only where no key may start. -/
def skipToToken : Nat → Lexer → Lexer
  | 0, lexer => lexer
  | fuel + 1, lexer =>
    let cursor := lexer.cursor
    let cursor :=
      if cursor.mark.column == 0 && cursor.sees '\ufeff' then cursor.advance else cursor
    let tabs := lexer.inFlow || !lexer.keyAllowed
    let cursor := (cursor.span fun c => c == ' ' || (tabs && c == '\t')).2.skipComment
    if cursor.next isBreak then
      skipToToken fuel
        { lexer with
          cursor := cursor.advanceLine
          keyAllowed := lexer.keyAllowed || !lexer.inFlow }
    else { lexer with cursor }

/-- Takes `n` characters as a token. -/
def take (lexer : Lexer) (n : Nat) (token : Token) : Lexer :=
  let after := lexer.cursor.skip n
  { lexer.push ⟨token, lexer.cursor.mark, after.mark⟩ with cursor := after }

/-- Takes a token that a reader has found. -/
def accept (lexer : Lexer) (found : Lexeme × Cursor) : Lexer :=
  { lexer.push found.1 with cursor := found.2 }

/-- The end of the text. -/
def fetchStreamEnd (lexer : Lexer) : Except SyntaxError Lexer := do
  let mark := lexer.cursor.mark
  let mark := if mark.column = 0 then mark else ⟨mark.index, mark.line + 1, 0⟩
  let lexer := { lexer with cursor := { lexer.cursor with mark } }
  let lexer ← (lexer.unroll none).dropCandidate
  pure ({ lexer with keyAllowed := false }.push ⟨.streamEnd, mark, mark⟩)

/-- A directive. -/
def fetchDirective (lexer : Lexer) : Except SyntaxError Lexer := do
  let lexer ← (lexer.unroll none).dropCandidate
  pure ({ lexer with keyAllowed := false }.accept (← readDirective lexer.cursor))

/-- The line that starts or ends a document. -/
def fetchDocumentMark (lexer : Lexer) (token : Token) : Except SyntaxError Lexer := do
  let lexer ← (lexer.unroll none).dropCandidate
  pure ({ lexer with keyAllowed := false }.take 3 token)

/-- An opening bracket. -/
def fetchOpen (lexer : Lexer) (token : Token) : Except SyntaxError Lexer := do
  let lexer ← lexer.markCandidate
  pure ({ lexer with
    candidates := none :: lexer.candidates
    depth := lexer.depth + 1
    keyAllowed := true }.take 1 token)

/-- A closing bracket. -/
def fetchClose (lexer : Lexer) (token : Token) : Except SyntaxError Lexer := do
  let lexer ← lexer.dropCandidate
  let lexer :=
    if lexer.inFlow then
      { lexer with depth := lexer.depth - 1, candidates := lexer.candidates.drop 1 }
    else lexer
  pure ({ lexer with keyAllowed := false }.take 1 token)

/-- The comma between entries inside brackets. -/
def fetchFlowEntry (lexer : Lexer) : Except SyntaxError Lexer := do
  let lexer ← lexer.dropCandidate
  pure ({ lexer with keyAllowed := true }.take 1 .flowEntry)

/-- The dash before an item of a block sequence. -/
def fetchBlockEntry (lexer : Lexer) : Except SyntaxError Lexer := do
  let mark := lexer.cursor.mark
  if !lexer.inFlow && !lexer.keyAllowed then
    throw (.plain "block sequence entries are not allowed in this context" mark)
  let lexer ← (lexer.roll mark.column none .blockSequenceStart mark).dropCandidate
  pure ({ lexer with keyAllowed := true }.take 1 .blockEntry)

/-- The question mark that announces a key. -/
def fetchKey (lexer : Lexer) : Except SyntaxError Lexer := do
  let mark := lexer.cursor.mark
  if !lexer.inFlow && !lexer.keyAllowed then
    throw (.plain "mapping keys are not allowed in this context" mark)
  let lexer ← (lexer.roll mark.column none .blockMappingStart mark).dropCandidate
  pure ({ lexer with keyAllowed := !lexer.inFlow }.take 1 .key)

/-- The colon after a key. It confirms the innermost candidate. -/
def fetchValue (lexer : Lexer) : Except SyntaxError Lexer := do
  let mark := lexer.cursor.mark
  match lexer.candidates with
  | some candidate :: rest =>
    let start := candidate.mark
    let lexer := lexer.insert candidate.number ⟨.key, start, start⟩
    let lexer := lexer.roll start.column (some candidate.number) .blockMappingStart start
    pure ({ lexer with candidates := none :: rest, keyAllowed := false }.take 1 .value)
  | _ =>
    if !lexer.inFlow && !lexer.keyAllowed then
      throw (.plain "mapping values are not allowed in this context" mark)
    let lexer := lexer.roll mark.column none .blockMappingStart mark
    pure ({ lexer with keyAllowed := !lexer.inFlow }.take 1 .value)

/-- An anchor, an alias, a tag or a quoted scalar: something that may be a key. -/
def fetchKeyable (lexer : Lexer) (reader : Cursor → Except SyntaxError (Lexeme × Cursor)) :
    Except SyntaxError Lexer := do
  let lexer ← lexer.markCandidate
  pure ({ lexer with keyAllowed := false }.accept (← reader lexer.cursor))

/-- A block scalar. -/
def fetchBlock (lexer : Lexer) (folded : Bool) : Except SyntaxError Lexer := do
  let lexer ← lexer.dropCandidate
  pure ({ lexer with keyAllowed := true }.accept (← readBlock folded lexer.indent lexer.cursor))

/-- A plain scalar. A key may start on the line after it. -/
def fetchPlain (lexer : Lexer) : Except SyntaxError Lexer := do
  let lexer ← lexer.markCandidate
  let least := (lexer.indent.map (· + 1)).getD 0
  let (found, broken, after) ← readPlain lexer.inFlow least lexer.cursor
  pure ({ lexer with keyAllowed := broken }.accept (found, after))

/-- A character that stands for something else than the start of a plain scalar. -/
def isIndicator (c : Char) : Bool :=
  "-?:,[]\x7b\x7d#&*!|>'\"%@".toList.contains c || c == '\x60'

/-- A plain scalar may start with this character. -/
def startsPlain (lexer : Lexer) (c : Char) : Bool :=
  let cursor := lexer.cursor
  let dash := c == '-' && !((cursor.peek 1).map isBlank).getD false
  let other := !lexer.inFlow && (c == '?' || c == ':') && !cursor.spaceAt 1
  !(isBlank c || isBreak c || isIndicator c) || dash || other

/-- Reads one more token from the text. No more than `turns` lines are skipped before it. -/
def fetchNext (turns : Nat) (lexer : Lexer) : Except SyntaxError Lexer := do
  if !lexer.started then
    let mark := lexer.cursor.mark
    pure ({ lexer with started := true }.push ⟨.streamStart, mark, mark⟩)
  else
    let lexer := skipToToken turns lexer
    let lexer ← lexer.dropExpired
    let lexer := lexer.unroll (some lexer.cursor.mark.column)
    let cursor := lexer.cursor
    match cursor.rest with
    | [] => lexer.fetchStreamEnd
    | c :: _ =>
      let indicates := lexer.inFlow || cursor.spaceAt 1
      if cursor.mark.column == 0 && c == '%' then lexer.fetchDirective
      else if cursor.atTriple '-' then lexer.fetchDocumentMark .documentStart
      else if cursor.atTriple '.' then lexer.fetchDocumentMark .documentEnd
      else if c == '[' then lexer.fetchOpen .flowSequenceStart
      else if c == '\x7b' then lexer.fetchOpen .flowMappingStart
      else if c == ']' then lexer.fetchClose .flowSequenceEnd
      else if c == '\x7d' then lexer.fetchClose .flowMappingEnd
      else if c == ',' then lexer.fetchFlowEntry
      else if c == '-' && cursor.spaceAt 1 then lexer.fetchBlockEntry
      else if c == '?' && indicates then lexer.fetchKey
      else if c == ':' && indicates then lexer.fetchValue
      else if c == '*' then lexer.fetchKeyable (readAnchor true)
      else if c == '&' then lexer.fetchKeyable (readAnchor false)
      else if c == '!' then lexer.fetchKeyable (readTag lexer.inFlow)
      else if c == '|' && !lexer.inFlow then lexer.fetchBlock false
      else if c == '>' && !lexer.inFlow then lexer.fetchBlock true
      else if c == '\'' then lexer.fetchKeyable (readQuoted true)
      else if c == '"' then lexer.fetchKeyable (readQuoted false)
      else if lexer.startsPlain c then lexer.fetchPlain
      else
        throw (.during "while scanning for the next token" cursor.mark
          "found character that cannot start any token" cursor.mark)

/-- How many characters are looked at before a token is read. -/
def foresight : Nat := 4

/-- Reads one more token unless that means to look beyond the barrier. -/
def fetch (turns : Nat) (lexer : Lexer) : Except SyntaxError Lexer :=
  match lexer.barrier with
  | none => lexer.fetchNext turns
  | some barrier =>
    let next := (skipToToken turns lexer).cursor.mark.index
    if lexer.started && barrier.index < next + foresight then .error barrier.failure
    else
      match lexer.fetchNext turns with
      | .ok after =>
        if lexer.started && barrier.index ≤ after.cursor.mark.index then .error barrier.failure
        else .ok after
      | .error e => .error (if barrier.index ≤ e.mark.index then barrier.failure else e)

/-! ### Handing out tokens -/

/-- The first token in the queue cannot be preceded by another any more. -/
def settled (lexer : Lexer) : Bool :=
  !lexer.queue.isEmpty &&
    !lexer.candidates.any fun slot =>
      match slot with
      | some candidate => candidate.number == lexer.handed
      | none => false

/-- Reads until the first token in the queue is settled. Whether a candidate has expired is looked
at again before each token, as the last one may have ended far from its start. -/
def settle : Nat → Lexer → Except SyntaxError Lexer
  | 0, lexer => .ok lexer
  | fuel + 1, lexer =>
    match if lexer.queue.isEmpty then .ok lexer else lexer.dropExpired with
    | .error e => .error e
    | .ok lexer =>
      if lexer.settled then .ok lexer
      else
        match lexer.fetch (fuel + 1) with
        | .error e => .error e
        | .ok lexer => settle fuel lexer

/-- Hands out one token. It is settled after no more than `turns` others are read. -/
def next (turns : Nat) (lexer : Lexer) : Except SyntaxError (Option Lexeme × Lexer) := do
  let lexer ← lexer.settle turns
  match lexer.queue with
  | [] => pure (none, lexer)
  | lexeme :: rest =>
    pure (some lexeme, { lexer with queue := rest, handed := lexer.handed + 1 })

/-- Hands out tokens up to the end of the text, or to the first error. -/
def drain : Nat → Lexer → List Lexeme × Option SyntaxError
  | 0, _ => ([], none)
  | fuel + 1, lexer =>
    match lexer.next (fuel + 4) with
    | .error e => ([], some e)
    | .ok (none, _) => ([], none)
    | .ok (some lexeme, lexer) =>
      if lexeme.token = .streamEnd then ([lexeme], none)
      else
        let (rest, e) := drain fuel lexer
        (lexeme :: rest, e)

end Lexer

/-- How many bytes of a text are taken in together. -/
def portionSize : Nat := 16384

/-- The start of the portion that holds the first character that no text may hold. The rest of the
text starts at byte `index`, in a portion that starts at byte `start`. -/
def barrierFrom? (start index : Nat) : List Char → Option Barrier
  | [] => none
  | c :: rest =>
    let start := if start + portionSize < index + c.utf8Size then index else start
    if isAllowed c then barrierFrom? start (index + c.utf8Size) rest
    else some ⟨start, ⟨"control characters are not allowed", Mark.start, none, index⟩⟩

/-- The tokens of a text in order. An error follows the last token that was certain. -/
def tokensOf (text : List Char) : List Lexeme × Option SyntaxError :=
  Lexer.drain (5 * text.length + 16) (Lexer.ofText text (barrierFrom? 0 0 text))

end RuntimeLauncher.Yaml
