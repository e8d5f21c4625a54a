import RuntimeLauncher.Yaml.Token.Lexer

/-!
# Events of YAML

Tokens are grouped into nodes by a grammar. The result is a row of events: a node is one event, or
an event for its start and one for its end with the events of its parts between.

## Main Definitions

* `Event` — one event
* `Parser` — the tokens that are left and what the grammar expects next
* `Parser.step` — reads tokens up to the next event
* `eventsOf` — all events of a text, and the error that stopped the reading

## Design Notes

The parser never looks further than one token. What it expects is a state, and the states to return
to after the current node are a stack. Where the grammar allows a node to be missing, the event of
an empty plain scalar stands for it.
-/

namespace RuntimeLauncher.Yaml

/-- An event. -/
inductive Event where
  | documentStart
  | documentEnd
  | alias (name : String)
  | scalar (anchor : Option String) (tag : Option Tag) (text : String) (style : ScalarStyle)
  | sequenceStart (anchor : Option String) (tag : Option Tag)
  | sequenceEnd
  | mappingStart (anchor : Option String) (tag : Option Tag)
  | mappingEnd
deriving DecidableEq

namespace Event

/-- The scalar that stands for a missing node. -/
def empty : Event := .scalar none none "" .plain

end Event

/-- What the grammar expects next. -/
inductive Expect where
  | streamStart
  | firstDocument
  | document
  | documentContent
  | documentEnd
  | blockNode
  | blockSequenceFirst
  | blockSequenceItem
  | indentlessItem
  | blockMappingFirst
  | blockMappingKey
  | blockMappingValue
  | flowSequenceFirst
  | flowSequenceItem
  | flowPairKey
  | flowPairValue
  | flowPairEnd
  | flowMappingFirst
  | flowMappingKey
  | flowMappingValue
  | flowMappingNoValue
  | nothing
deriving DecidableEq

/-- Tokens on their way to events. -/
structure Parser where
  tokens : List Lexeme
  /-- The error after the last token. -/
  failure : Option SyntaxError
  expect : Expect
  /-- What to expect after the current node. -/
  stack : List Expect
  /-- Where the open collections start. -/
  starts : List Mark
  /-- The meanings of tag handles. -/
  handles : List (String × Tag)

namespace Parser

/-- What a step gives: the event with its place, and the parser after it. -/
abbrev Found := Except SyntaxError (Option (Event × Mark) × Parser)

/-- The handles that need no directive. -/
def defaultHandles : List (String × Tag) :=
  [("!", .text "!"), ("!!", .text "tag:yaml.org,2002:")]

/-- A parser at the start of a row of tokens. -/
def ofTokens (tokens : List Lexeme) (failure : Option SyntaxError) : Parser :=
  ⟨tokens, failure, .streamStart, [], [], []⟩

/-- The next token. -/
def peek (parser : Parser) : Except SyntaxError Lexeme :=
  match parser.tokens, parser.failure with
  | lexeme :: _, _ => .ok lexeme
  | [], some e => .error e
  | [], none => .error (.plain "did not find expected node content" Mark.start)

/-- Moves over the next token. -/
def skip (parser : Parser) : Parser := { parser with tokens := parser.tokens.drop 1 }

/-- Returns to what was expected before the current node. -/
def pop (parser : Parser) : Parser :=
  { parser with expect := parser.stack.headD .nothing, stack := parser.stack.drop 1 }

/-- Remembers what to expect after the node that comes now. -/
def pushExpect (parser : Parser) (expect : Expect) : Parser :=
  { parser with stack := expect :: parser.stack }

/-- Opens a collection at its first token. -/
def openAt (parser : Parser) (mark : Mark) : Parser :=
  { parser.skip with starts := mark :: parser.starts }

/-- Leaves a collection. -/
def close (parser : Parser) : Parser := { parser.pop with starts := parser.starts.drop 1 }

/-- The place where the innermost collection starts. -/
def start (parser : Parser) : Mark := parser.starts.headD Mark.start

/-- An event. -/
def emit (parser : Parser) (event : Event) (mark : Mark) : Found :=
  .ok (some (event, mark), parser)

/-- The event for a missing node. -/
def emitEmpty (parser : Parser) (expect : Expect) (mark : Mark) : Found :=
  emit { parser with expect } .empty mark

/-! ### Nodes -/

/-- An anchor and a tag in front of a node. -/
structure Properties where
  anchor : Option String
  tag : Option (String × Tag × Mark)
  /-- Where the first of them starts. -/
  start : Option Mark

/-- Reads an anchor and a tag in either order. -/
def properties (parser : Parser) : Except SyntaxError (Properties × Parser) := do
  let lexeme ← parser.peek
  match lexeme.token with
  | .anchor name =>
    let parser := parser.skip
    let second ← parser.peek
    match second.token with
    | .tag handle suffix =>
      pure (⟨some name, some (handle, suffix, second.start), some lexeme.start⟩, parser.skip)
    | _ => pure (⟨some name, none, some lexeme.start⟩, parser)
  | .tag handle suffix =>
    let parser := parser.skip
    let second ← parser.peek
    let tag := (handle, suffix, lexeme.start)
    match second.token with
    | .anchor name => pure (⟨some name, some tag, some lexeme.start⟩, parser.skip)
    | _ => pure (⟨none, some tag, some lexeme.start⟩, parser)
  | _ => pure (⟨none, none, none⟩, parser)

/-- The tag that a handle and a suffix stand for. -/
def meaning (parser : Parser) (start : Mark) (tag : Option (String × Tag × Mark)) :
    Except SyntaxError (Option Tag) :=
  match tag with
  | none => .ok none
  | some (handle, suffix, mark) =>
    if handle.isEmpty then .ok (some suffix)
    else
      match parser.handles.lookup handle with
      | some before => .ok (some (before.append suffix))
      | none =>
        .error (.during "while parsing a node" start "found undefined tag handle" mark)

/-- Reads a node. Block collections are allowed in a block only, and a sequence without an
indentation of its own only as a part of a block mapping. -/
def node (parser : Parser) (block indentless : Bool) : Found := do
  let first ← parser.peek
  match first.token with
  | .alias name => emit parser.pop.skip (.alias name) first.start
  | _ =>
    let (props, parser) ← parser.properties
    let lexeme ← parser.peek
    let start := props.start.getD lexeme.start
    let tag ← parser.meaning start props.tag
    let anchor := props.anchor
    let sequence := fun (expect : Expect) =>
      emit { parser with expect } (.sequenceStart anchor tag) start
    let mapping := fun (expect : Expect) =>
      emit { parser with expect } (.mappingStart anchor tag) start
    match lexeme.token with
    | .scalar text style => emit parser.pop.skip (.scalar anchor tag text style) start
    | .flowSequenceStart => sequence .flowSequenceFirst
    | .flowMappingStart => mapping .flowMappingFirst
    | token =>
      if indentless && token = .blockEntry then sequence .indentlessItem
      else if block && token = .blockSequenceStart then sequence .blockSequenceFirst
      else if block && token = .blockMappingStart then mapping .blockMappingFirst
      else if anchor.isSome || tag.isSome then
        emit parser.pop (.scalar anchor tag "" .plain) start
      else
        let context := if block then "while parsing a block node" else "while parsing a flow node"
        throw (.during context start "did not find expected node content" lexeme.start)

/-- Reads a node, or finds it missing if one of the `ends` comes instead. -/
def nodeUnless (parser : Parser) (ends : List Token) (block indentless : Bool) (after : Expect)
    (missing : Lexeme → Mark) : Found := do
  let lexeme ← parser.peek
  if ends.contains lexeme.token then parser.emitEmpty after (missing lexeme)
  else (parser.pushExpect after).node block indentless

/-! ### Documents -/

/-- Reads the directives before a document. -/
def directives : Nat → Bool → List (String × Tag) → Parser →
    Except SyntaxError (List (String × Tag) × Parser)
  | 0, _, handles, parser => .ok (handles, parser)
  | fuel + 1, versioned, handles, parser =>
    match parser.peek with
    | .error e => .error e
    | .ok lexeme =>
      match lexeme.token with
      | .versionDirective major minor =>
        if versioned then
          .error (.plain "found duplicate %YAML directive" lexeme.start)
        else if major ≠ 1 || (minor ≠ 1 && minor ≠ 2) then
          .error (.plain "found incompatible YAML document" lexeme.start)
        else directives fuel true handles parser.skip
      | .tagDirective handle meaning =>
        if (handles.lookup handle).isSome then
          .error (.plain "found duplicate %TAG directive" lexeme.start)
        else directives fuel versioned (handles ++ [(handle, meaning)]) parser.skip
      | _ => .ok (handles ++ defaultHandles, parser)

/-- Moves over lines that end a document. -/
def skipDocumentEnds (parser : Parser) : Parser :=
  { parser with tokens := parser.tokens.dropWhile fun lexeme => lexeme.token = .documentEnd }

/-- Reads the start of a document, or the end of the text. -/
def documentStart (first : Bool) (parser : Parser) : Found := do
  let parser := if first then parser else parser.skipDocumentEnds
  let lexeme ← parser.peek
  let explicit : Bool :=
    match lexeme.token with
    | .versionDirective _ _ | .tagDirective _ _ | .documentStart => true
    | _ => false
  if lexeme.token = .streamEnd then pure (none, { parser.skip with expect := .nothing })
  else if first && !explicit then
    emit { parser.pushExpect .documentEnd with expect := .blockNode, handles := defaultHandles }
      .documentStart lexeme.start
  else
    let (handles, parser) ← directives (parser.tokens.length + 1) false [] parser
    let found ← parser.peek
    if found.token ≠ .documentStart then
      throw (.plain "did not find expected <document start>" found.start)
    emit { parser.skip.pushExpect .documentEnd with expect := .documentContent, handles }
      .documentStart lexeme.start

/-- Reads the node of a document after its start line. -/
def documentContent (parser : Parser) : Found := do
  let lexeme ← parser.peek
  match lexeme.token with
  | .versionDirective _ _ | .tagDirective _ _ | .documentStart | .documentEnd | .streamEnd =>
    emit parser.pop .empty lexeme.start
  | _ => parser.node true false

/-- Reads the end of a document. -/
def documentEnd (parser : Parser) : Found := do
  let lexeme ← parser.peek
  let parser := if lexeme.token = .documentEnd then parser.skip else parser
  emit { parser with expect := .document, handles := [] } .documentEnd lexeme.start

/-! ### Block collections -/

/-- Reads an item of a block sequence, or its end. -/
def blockSequenceItem (parser : Parser) : Found := do
  let lexeme ← parser.peek
  match lexeme.token with
  | .blockEntry =>
    parser.skip.nodeUnless [.blockEntry, .blockEnd] true false .blockSequenceItem
      fun _ => lexeme.stop
  | .blockEnd => emit parser.close.skip .sequenceEnd lexeme.start
  | _ =>
    throw (.during "while parsing a block collection" parser.start
      "did not find expected '-' indicator" lexeme.start)

/-- Reads an item of a sequence that stands at its mapping's own column. -/
def indentlessItem (parser : Parser) : Found := do
  let lexeme ← parser.peek
  match lexeme.token with
  | .blockEntry =>
    parser.skip.nodeUnless [.blockEntry, .key, .value, .blockEnd] true false .indentlessItem
      fun _ => lexeme.stop
  | _ => emit parser.pop .sequenceEnd lexeme.start

/-- Reads a key of a block mapping, or its end. -/
def blockMappingKey (parser : Parser) : Found := do
  let lexeme ← parser.peek
  match lexeme.token with
  | .key =>
    parser.skip.nodeUnless [.key, .value, .blockEnd] true true .blockMappingValue
      fun _ => lexeme.stop
  | .blockEnd => emit parser.close.skip .mappingEnd lexeme.start
  | _ =>
    throw (.during "while parsing a block mapping" parser.start
      "did not find expected key" lexeme.start)

/-- Reads a value of a block mapping. -/
def blockMappingValue (parser : Parser) : Found := do
  let lexeme ← parser.peek
  match lexeme.token with
  | .value =>
    parser.skip.nodeUnless [.key, .value, .blockEnd] true true .blockMappingKey
      fun _ => lexeme.stop
  | _ => parser.emitEmpty .blockMappingKey lexeme.start

/-! ### Flow collections -/

/-- Moves over the comma before an entry that is not the first. -/
def separated (parser : Parser) (first : Bool) (context problem : String) :
    Except SyntaxError Parser := do
  let lexeme ← parser.peek
  if first then pure parser
  else if lexeme.token = .flowEntry then pure parser.skip
  else throw (.during context parser.start problem lexeme.start)

/-- Reads an item of a flow sequence, or its end. An announced key makes a mapping of one entry. -/
def flowSequenceItem (first : Bool) (parser : Parser) : Found := do
  let before ← parser.peek
  if before.token = .flowSequenceEnd then emit parser.close.skip .sequenceEnd before.start
  else
    let parser ← parser.separated first "while parsing a flow sequence"
      "did not find expected ',' or ']'"
    let lexeme ← parser.peek
    match lexeme.token with
    | .key =>
      emit { parser.skip with expect := .flowPairKey } (.mappingStart none none) lexeme.start
    | .flowSequenceEnd => emit parser.close.skip .sequenceEnd lexeme.start
    | _ => (parser.pushExpect .flowSequenceItem).node false false

/-- Reads the key of a mapping of one entry. -/
def flowPairKey (parser : Parser) : Found := do
  let lexeme ← parser.peek
  if [Token.value, .flowEntry, .flowSequenceEnd].contains lexeme.token then
    parser.skip.emitEmpty .flowPairValue lexeme.stop
  else (parser.pushExpect .flowPairValue).node false false

/-- Reads the value of a mapping of one entry. -/
def flowPairValue (parser : Parser) : Found := do
  let lexeme ← parser.peek
  if lexeme.token = .value then
    parser.skip.nodeUnless [.flowEntry, .flowSequenceEnd] false false .flowPairEnd
      fun lexeme => lexeme.start
  else parser.emitEmpty .flowPairEnd lexeme.start

/-- Ends a mapping of one entry. -/
def flowPairEnd (parser : Parser) : Found := do
  let lexeme ← parser.peek
  emit { parser with expect := .flowSequenceItem } .mappingEnd lexeme.start

/-- Reads a key of a flow mapping, or its end. -/
def flowMappingKey (first : Bool) (parser : Parser) : Found := do
  let before ← parser.peek
  if before.token = .flowMappingEnd then emit parser.close.skip .mappingEnd before.start
  else
    let parser ← parser.separated first "while parsing a flow mapping"
      "did not find expected ',' or '\x7d'"
    let lexeme ← parser.peek
    match lexeme.token with
    | .key =>
      parser.skip.nodeUnless [.value, .flowEntry, .flowMappingEnd] false false .flowMappingValue
        fun lexeme => lexeme.start
    | .flowMappingEnd => emit parser.close.skip .mappingEnd lexeme.start
    | _ => (parser.pushExpect .flowMappingNoValue).node false false

/-- Reads a value of a flow mapping. -/
def flowMappingValue (parser : Parser) : Found := do
  let lexeme ← parser.peek
  if lexeme.token = .value then
    parser.skip.nodeUnless [.flowEntry, .flowMappingEnd] false false .flowMappingKey
      fun lexeme => lexeme.start
  else parser.emitEmpty .flowMappingKey lexeme.start

/-! ### The whole row -/

/-- Reads tokens up to the next event. At the end of the text there is none. -/
def step (parser : Parser) : Found := do
  match parser.expect with
  | .streamStart =>
    let _ ← parser.peek
    documentStart true { parser.skip with expect := .firstDocument }
  | .firstDocument => parser.documentStart true
  | .document => parser.documentStart false
  | .documentContent => parser.documentContent
  | .documentEnd => parser.documentEnd
  | .blockNode => parser.node true false
  | .blockSequenceFirst => (parser.openAt (← parser.peek).start).blockSequenceItem
  | .blockSequenceItem => parser.blockSequenceItem
  | .indentlessItem => parser.indentlessItem
  | .blockMappingFirst => (parser.openAt (← parser.peek).start).blockMappingKey
  | .blockMappingKey => parser.blockMappingKey
  | .blockMappingValue => parser.blockMappingValue
  | .flowSequenceFirst => (parser.openAt (← parser.peek).start).flowSequenceItem true
  | .flowSequenceItem => parser.flowSequenceItem false
  | .flowPairKey => parser.flowPairKey
  | .flowPairValue => parser.flowPairValue
  | .flowPairEnd => parser.flowPairEnd
  | .flowMappingFirst => (parser.openAt (← parser.peek).start).flowMappingKey true
  | .flowMappingKey => parser.flowMappingKey false
  | .flowMappingValue => parser.flowMappingValue
  | .flowMappingNoValue => parser.emitEmpty .flowMappingKey (← parser.peek).start
  | .nothing => pure (none, parser)

/-- Reads events up to the end of the text, or to the first error. -/
def drain : Nat → Parser → List (Event × Mark) × Option SyntaxError
  | 0, _ => ([], none)
  | fuel + 1, parser =>
    match parser.step with
    | .error e => ([], some e)
    | .ok (none, _) => ([], none)
    | .ok (some found, parser) =>
      let (rest, e) := drain fuel parser
      (found :: rest, e)

end Parser

/-- The events of a text. -/
structure EventRow where
  /-- The events with their places. -/
  events : List (Event × Mark)
  /-- The error after the last event. -/
  failure : Option SyntaxError
  /-- Where the tokens end. -/
  stop : Mark

/-- Reads a text as events. An error follows the last event that was certain. -/
def eventsOf (text : String) : EventRow :=
  let (tokens, lexFailure) := tokensOf text.toList
  let stop := ((tokens.getLast?).map Lexeme.start).getD Mark.start
  let (events, failure) :=
    Parser.drain (6 * tokens.length + 16) (Parser.ofTokens tokens lexFailure)
  ⟨events, failure, stop⟩

end RuntimeLauncher.Yaml
