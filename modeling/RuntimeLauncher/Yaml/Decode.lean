import RuntimeLauncher.Yaml.Node
import RuntimeLauncher.Yaml.Value

/-!
# Decoding nodes

A decoder turns nodes into the data that a program wants. This module holds the decoders that every
schema needs: texts, optional parts, sequences, mappings, names out of a fixed choice, and values of
any shape.

## Main Definitions

* `Decode` — a decoder's result with the number of aliases followed so far
* `Document.text`, `Document.optional`, `Document.sequence`, `Document.mapping`,
  `Document.choice` — decoders for one node
* `Document.value` — a node as a value of any shape
* `Document.decode` — a decoder applied to a whole document

## Design Notes

An alias is followed where a node is decoded, and the number of aliases followed is bounded, so a
short text cannot stand for a huge document. Values of any shape may nest 128 collections deep. A
plain scalar is read by its characters unless a tag of the standard says what it is. Where a text is
wanted every scalar is taken as it is written.
-/

namespace RuntimeLauncher.Yaml

/-- A decoder's result. The state is the number of aliases followed. -/
abbrev Decode := StateT Nat (Except Error)

namespace Decode

/-- Adds a place to an error that has none. -/
def placed {α : Type} (mark : Mark) (path : Path) (x : Decode α) : Decode α := fun count =>
  match x count with
  | .ok result => .ok result
  | .error e => .error (e.placed mark path)

/-- Fails for a cause whose place is not known here. -/
def refuse {α : Type} (cause : Cause) : Decode α := throw (.data cause none)

/-- Fails where the text broke off inside a collection. -/
def uncut (cut : Option Error) : Decode Unit :=
  match cut with
  | some e => throw e
  | none => pure ()

end Decode

/-! ### Scalars -/

/-- The tags of the standard that decide what a scalar is. -/
def standardTag (name : String) : Tag := .text ("tag:yaml.org,2002:" ++ name)

/-- The name of a local tag. A tag that is not text has none. -/
def localTag? (tag : Option Tag) : Option String :=
  match (tag.bind Octets.text?).map String.toList with
  | some ['!'] => some "!"
  | some ('!' :: name) => some (String.ofList name)
  | _ => none

/-- The tag begins like a local one. -/
def beginsLocal (tag : Tag) : Bool := tag.bytes.head? == some 0x21

/-- What a plain scalar stands for. -/
def sightOfPlain (text : String) : Sight :=
  if text.isEmpty || Plain.isNull text then .nothing
  else
    match Plain.bool? text with
    | some b => .bool b
    | none =>
      match Plain.integer? text with
      | some (.word n) => .integer n
      | some (.wideUnsigned n) => .wideInteger n false
      | some (.wideSigned n) => .wideInteger n true
      | none =>
        match if Plain.hasSpareZero text.toList then none else Plain.float? text with
        | some x => .float x
        | none => .string text

/-- What a scalar stands for. A tag of the standard can be refused. -/
def sightOf (tag : Option Tag) (text : String) (style : ScalarStyle) : Except Cause Sight :=
  let expect := fun (found : Option Sight) (name : String) =>
    match found with
    | some sight => Except.ok sight
    | none => .error (.invalidValue (.string text) name)
  match tag with
  | none => .ok (if style = .plain then sightOfPlain text else .string text)
  | some tag =>
    if tag = standardTag "bool" then expect ((Plain.bool? text).map .bool) "a boolean"
    else if tag = standardTag "int" then
      let found := (Plain.integer? text).map fun n =>
        match n with
        | .word n => Sight.integer n
        | .wideUnsigned n => .wideInteger n false
        | .wideSigned n => .wideInteger n true
      expect found "an integer"
    else if tag = standardTag "float" then expect ((Plain.float? text).map .float) "a float"
    else if tag = standardTag "null" then
      expect (if Plain.isNull text then some .nothing else none) "null"
    else if beginsLocal tag && style = .plain then .ok (sightOfPlain text)
    else .ok (.string text)

/-! ### Decoders for one node -/

namespace Document

/-- The most aliases that may be followed. -/
def aliasLimit (document : Document) : Nat := 100 * document.size

/-- The node itself, or the one that an alias stands for. -/
def follow (document : Document) : Node → Decode Node
  | .alias number => do
    let count ← get
    if count + 1 > document.aliasLimit then throw .tooManyAliases
    set (count + 1)
    match document.anchors.lookup number with
    | some node => pure node
    | none => throw .endOfText
  | node => pure node

end Document

/-- The error for a node of the wrong kind. -/
def Node.mismatch (node : Node) (expected : String) : Error :=
  match node with
  | .scalar _ tag text style =>
    match sightOf tag text style with
    | .ok sight => .data (.invalidType sight expected) none
    | .error cause => .data cause none
  | .seq _ _ _ _ => .data (.invalidType .sequence expected) none
  | .map _ _ _ _ => .data (.invalidType .mapping expected) none
  | .alias _ => .endOfText
  | .void _ => .endOfText
  | .cut e => e

/-- The place of a node. -/
def Node.mark : Node → Mark
  | .scalar mark _ _ _ => mark
  | .seq mark _ _ _ => mark
  | .map mark _ _ _ => mark
  | .alias _ => Mark.start
  | .void mark => mark
  | .cut _ => Mark.start

/-- A scalar that was left out: plain and empty. -/
def isMissing (text : String) (style : ScalarStyle) : Bool := text.isEmpty && style == .plain

/-- The step to the value of a key. -/
def PathStep.ofKey : Node → PathStep
  | .scalar _ _ text _ => .field text
  | _ => .unknown

namespace Document

variable (document : Document)

/-- A scalar as text. -/
def text (expected : String) (path : Path) (node : Node) : Decode String := do
  let target ← document.follow node
  match target with
  | .scalar _ _ text _ => pure text
  | other => Decode.placed other.mark path (throw (other.mismatch expected))

/-- An optional part: nothing, or what a decoder makes of it. -/
def optional {α : Type} (node : Node) (decoder : Node → Decode α) : Decode (Option α) := do
  let target ← document.follow node
  match target with
  | .scalar _ tag text style =>
    if style ≠ .plain then some <$> decoder target
    else
      match tag with
      | some tag =>
        if tag = standardTag "null" then
          if Plain.isNull text then pure none
          else Decode.refuse (.invalidValue (.string text) "null")
        else some <$> decoder target
      | none =>
        if text.isEmpty || Plain.isNull text then pure none else some <$> decoder target
  | .void _ => pure none
  | .cut e => throw e
  | _ => some <$> decoder target

/-- Decodes parts one after another with their positions. -/
def items {α : Type} (decoder : PathStep → Node → Decode α) : Nat → List Node → Decode (List α)
  | _, [] => pure []
  | i, node :: rest => do
    let first ← decoder (.item i) node
    let others ← items decoder (i + 1) rest
    pure (first :: others)

/-- A sequence of parts. A missing node is an empty sequence. -/
def sequence {α : Type} (path : Path) (node : Node) (decoder : Path → Node → Decode α) :
    Decode (List α) := do
  let target ← document.follow node
  match target with
  | .seq mark _ parts cut =>
    Decode.placed mark path do
      let found ← items (fun step part => decoder (step :: path) part) 0 parts
      Decode.uncut cut
      pure found
  | .void _ => pure []
  | .scalar mark _ text style =>
    if isMissing text style then pure []
    else Decode.placed mark path (throw (target.mismatch "a sequence"))
  | other => Decode.placed other.mark path (throw (other.mismatch "a sequence"))

/-- The entries of a mapping. A missing node is an empty mapping. -/
def mapping {α : Type} (expected : String) (path : Path) (node : Node)
    (decoder : List (Node × Node) → Decode α) : Decode α := do
  let target ← document.follow node
  match target with
  | .map mark _ entries cut =>
    Decode.placed mark path do
      let found ← decoder entries
      Decode.uncut cut
      pure found
  | .void mark => Decode.placed mark path (decoder [])
  | .scalar mark _ text style =>
    if isMissing text style then Decode.placed mark path (decoder [])
    else Decode.placed mark path (throw (target.mismatch expected))
  | other => Decode.placed other.mark path (throw (other.mismatch expected))

/-- A part whose content does not matter. It must only be complete. -/
def ignored : Node → Decode Unit
  | .seq _ _ _ cut => Decode.uncut cut
  | .map _ _ _ cut => Decode.uncut cut
  | .cut e => throw e
  | _ => pure ()

/-- A name out of a fixed choice, either as text or as a local tag on nothing. -/
def choice {α : Type} (known : List (String × α)) (path : Path) (node : Node) : Decode α := do
  let target ← document.follow node
  let named := fun (name : String) =>
    match known.lookup name with
    | some a => (pure a : Decode α)
    | none => Decode.refuse (.unknownVariant name (known.map Prod.fst))
  let noContent := fun (kind : Sight) =>
    Decode.placed target.mark path (Decode.refuse (.invalidType kind "unit") : Decode Unit)
  match target with
  | .scalar mark tag text style =>
    match localTag? tag with
    | none => Decode.placed mark path (named text)
    | some name =>
      let a ← named name
      if style = .plain && (text.isEmpty || Plain.isNull text) then pure a
      else Decode.placed mark path (Decode.refuse (.invalidValue (.string text) "null"))
  | .seq mark tag _ _ =>
    match localTag? tag with
    | none =>
      Decode.placed mark path
        (Decode.refuse (.invalidType .sequence "a YAML tag starting with '!'"))
    | some name =>
      let a ← named name
      noContent .sequence
      pure a
  | .map mark tag _ _ =>
    match localTag? tag with
    | none =>
      Decode.placed mark path
        (Decode.refuse (.invalidType .mapping "a YAML tag starting with '!'"))
    | some name =>
      let a ← named name
      noContent .mapping
      pure a
  | .cut e => throw e
  | _ => throw .endOfText

/-! ### Values of any shape -/

/-- How many collections may be nested. -/
def depthLimit : Nat := 128

/-- What was seen, as a value. -/
def valueOfSight : Sight → Decode Value
  | .nothing => pure .null
  | .bool b => pure (.bool b)
  | .integer n => pure (.int n)
  | .wideInteger n signed =>
    Decode.refuse (.invalidType (.wideInteger n signed) "any value")
  | .float x => pure (.float x)
  | .string s => pure (.string s)
  | .sequence => pure (.seq [])
  | .mapping => pure (.map [])

/-- Decodes the entries of a mapping one after another, each key before its value. -/
def entries {α β : Type} (key : Node → Decode α) (value : PathStep → Node → Decode β) :
    List (Node × Node) → Decode (List (α × β))
  | [] => pure []
  | (k, v) :: rest => do
    let a ← key k
    let b ← value (.ofKey k) v
    let others ← entries key value rest
    pure ((a, b) :: others)

/-- A node as a value, with a decoder for its parts unless collections are nested too deeply. -/
def valueWith (deeper : Option (Path → Node → Decode Value)) (path : Path) (node : Node) :
    Decode Value := do
  let target ← document.follow node
  match target with
  | .scalar mark tag text style =>
    Decode.placed mark path do
      if (localTag? tag).isSome then Decode.refuse .localTag
      else
        match sightOf tag text style with
        | .ok sight => valueOfSight sight
        | .error cause => Decode.refuse cause
  | .seq mark tag parts cut =>
    Decode.placed mark path do
      if (localTag? tag).isSome then Decode.refuse .localTag
      match deeper with
      | none => throw (.tooDeep mark)
      | some decoder =>
        let found ← items (fun step part => decoder (step :: path) part) 0 parts
        Decode.uncut cut
        pure (.seq found)
  | .map mark tag parts cut =>
    Decode.placed mark path do
      if (localTag? tag).isSome then Decode.refuse .localTag
      match deeper with
      | none => throw (.tooDeep mark)
      | some decoder =>
        let found ← entries (decoder path) (fun step part => decoder (step :: path) part) parts
        Decode.uncut cut
        pure (.map found)
  | .void _ => pure .null
  | .cut e => throw e
  | .alias _ => throw .endOfText

/-- A node as a value with at most `depth` collections nested. -/
def value (depth : Nat) (path : Path) (node : Node) : Decode Value :=
  match depth with
  | 0 => document.valueWith none path node
  | depth + 1 => document.valueWith (some (value depth)) path node

/-! ### Whole documents -/

/-- Applies a decoder to the root. The text must hold the whole document and nothing after it. -/
def decode {α : Type} (decoder : Node → Decode α) : Except Error α :=
  match (decoder document.root).run 0 with
  | .error e => .error e
  | .ok (a, _) =>
    match document.failure with
    | some e => .error e
    | none => if document.more then .error .manyDocuments else .ok a

end Document

end RuntimeLauncher.Yaml
