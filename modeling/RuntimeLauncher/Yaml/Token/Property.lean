import RuntimeLauncher.Yaml.Token.Scalar

/-!
# Reading directives, anchors and tags

## Main Definitions

* `readDirective` — a line that starts with a percent sign
* `readAnchor` — the name after `&` or `*`
* `readTag` — a tag in one of its three forms

## Design Notes

A tag is written with a handle and a suffix, and a directive may give the handle a meaning. A tag in
angle brackets is complete by itself and has an empty handle. The bare tag `!` is handed on as a
suffix with an empty handle.

Escapes stand for bytes, and a null byte among them ends the suffix: what is written after it has to
be well formed and is then dropped.
-/

namespace RuntimeLauncher.Yaml

/-! ### Tags -/

/-- A character of a tag's suffix. Some more are allowed inside angle brackets. -/
def isTagChar (bracketed : Bool) (c : Char) : Bool :=
  isWordChar c || ";/?:@&=+$.%!~*'()".toList.contains c || (bracketed && ",[]".toList.contains c)

/-- The number of bytes that a first byte announces, zero if it cannot be one. -/
def leadWidth (byte : Nat) : Nat :=
  if byte < 0x80 then 1
  else if byte / 0x20 = 6 then 2
  else if byte / 0x10 = 0xe then 3
  else if byte / 0x08 = 0x1e then 4
  else 0

/-- Reads the bytes of one escaped character. A width of zero asks the first byte. -/
def readTagBytes (context : String) (start : Mark) :
    Nat → Nat → List UInt8 → Cursor → Except SyntaxError (List UInt8 × Cursor)
  | 0, _, bytes, cursor => .ok (bytes, cursor)
  | fuel + 1, width, bytes, cursor =>
    let fail := fun (problem : String) =>
      Except.error (SyntaxError.during context start problem cursor.mark)
    match (if cursor.sees '%' then hexNumber? 0 2 cursor.advance.rest else none) with
    | none => fail "did not find URI escaped octet"
    | some byte =>
      let bytes' := bytes ++ [byte.toUInt8]
      if bytes.isEmpty then
        match leadWidth byte with
        | 0 => fail "found an incorrect leading UTF-8 octet"
        | n + 1 =>
          if n = 0 then .ok (bytes', cursor.skip 3)
          else readTagBytes context start fuel n bytes' (cursor.skip 3)
      else if byte / 0x40 ≠ 2 then fail "found an incorrect trailing UTF-8 octet"
      else if width ≤ 1 then .ok (bytes', cursor.skip 3)
      else readTagBytes context start fuel (width - 1) bytes' (cursor.skip 3)

/-- Reads the characters of a suffix as bytes. -/
def readTagChars (bracketed : Bool) (context : String) (start : Mark) :
    Nat → List UInt8 → Cursor → Except SyntaxError (List UInt8 × Cursor)
  | 0, bytes, cursor => .ok (bytes, cursor)
  | fuel + 1, bytes, cursor =>
    match cursor.rest with
    | [] => .ok (bytes, cursor)
    | c :: _ =>
      if !isTagChar bracketed c then .ok (bytes, cursor)
      else if c == '%' then
        match readTagBytes context start 4 0 [] cursor with
        | .error e => .error e
        | .ok (more, cursor) => readTagChars bracketed context start fuel (bytes ++ more) cursor
      else
        readTagChars bracketed context start fuel (bytes ++ String.utf8EncodeChar c) cursor.advance

/-- Reads a suffix after characters that were taken for a handle first. -/
def readTagSuffix (bracketed directive : Bool) (head : List Char) (start : Mark)
    (cursor : Cursor) : Except SyntaxError (Tag × Cursor) := do
  let context := if directive then "while parsing a %TAG directive" else "while parsing a tag"
  let (bytes, after) ←
    readTagChars bracketed context start (cursor.rest.length + 1)
      ((head.drop 1).flatMap String.utf8EncodeChar) cursor
  if head.isEmpty && bytes.isEmpty then
    throw (.during context start "did not find expected tag URI" after.mark)
  pure (.ofBytes (bytes.takeWhile (· != 0)), after)

/-- Reads a handle: an exclamation mark, a name, and perhaps another mark. -/
def readTagHandle (directive : Bool) (start : Mark) (cursor : Cursor) :
    Except SyntaxError (List Char × Cursor) := do
  let context := if directive then "while scanning a tag directive" else "while scanning a tag"
  if !cursor.sees '!' then
    throw (.during context start "did not find expected '!'" cursor.mark)
  let (name, after) := cursor.advance.span isWordChar
  if after.sees '!' then pure ('!' :: name ++ ['!'], after.advance)
  else if directive && !name.isEmpty then
    throw (.during "while parsing a tag directive" start "did not find expected '!'" after.mark)
  else pure ('!' :: name, after)

/-- Reads a tag. The cursor stands on its first mark. -/
def readTag (flow : Bool) (cursor : Cursor) : Except SyntaxError (Lexeme × Cursor) := do
  let start := cursor.mark
  let (handle, suffix, after) ← do
    if cursor.peek 1 == some '<' then
      let (suffix, after) ← readTagSuffix true false [] start (cursor.skip 2)
      if !after.sees '>' then
        throw (.during "while scanning a tag" start "did not find the expected '>'" after.mark)
      pure ([], suffix, after.advance)
    else
      let (handle, after) ← readTagHandle false start cursor
      if handle.length > 1 && handle.getLast? == some '!' then
        let (suffix, after) ← readTagSuffix false false [] start after
        pure (handle, suffix, after)
      else
        let (suffix, after) ← readTagSuffix false false handle start after
        if suffix = .text "" then pure ([], .text "!", after) else pure (['!'], suffix, after)
  if !after.spaceAt 0 && !(flow && after.sees ',') then
    throw (.during "while scanning a tag" start
      "did not find expected whitespace or line break" after.mark)
  pure (⟨.tag (String.ofList handle) suffix, start, after.mark⟩, after)

/-! ### Anchors -/

/-- A character that may follow an anchor's name directly. -/
def endsAnchor (c : Char) : Bool := "?:,]\x7d%@".toList.contains c || c == '\x60'

/-- Reads an anchor or, with `refers`, a reference to one. The cursor stands on the indicator. -/
def readAnchor (refers : Bool) (cursor : Cursor) : Except SyntaxError (Lexeme × Cursor) := do
  let start := cursor.mark
  let (name, after) := cursor.advance.span isWordChar
  if name.isEmpty || !(after.spaceAt 0 || after.next endsAnchor) then
    let context := if refers then "while scanning an alias" else "while scanning an anchor"
    throw (.during context start "did not find expected alphabetic or numeric character"
      after.mark)
  let text := String.ofList name
  pure (⟨if refers then .alias text else .anchor text, start, after.mark⟩, after)

/-! ### Directives -/

/-- Reads one number of a version. -/
def readVersionNumber (start : Mark) (cursor : Cursor) : Except SyntaxError (Nat × Cursor) := do
  let context := "while scanning a %YAML directive"
  let (digits, after) := cursor.span Char.isDigit
  if digits.length > 9 then
    throw (.during context start "found extremely long version number" (cursor.skip 9).mark)
  if digits.isEmpty then
    throw (.during context start "did not find expected version number" after.mark)
  pure (digits.foldl (fun n c => 10 * n + (c.toNat - '0'.toNat)) 0, after)

/-- Reads the rest of a version directive. -/
def readVersion (start : Mark) (cursor : Cursor) : Except SyntaxError (Token × Cursor) := do
  let (major, after) ← readVersionNumber start cursor.skipBlanks
  if !after.sees '.' then
    throw (.during "while scanning a %YAML directive" start
      "did not find expected digit or '.' character" after.mark)
  let (minor, after) ← readVersionNumber start after.advance
  pure (.versionDirective major minor, after)

/-- Reads the rest of a tag directive. -/
def readTagMeaning (start : Mark) (cursor : Cursor) : Except SyntaxError (Token × Cursor) := do
  let context := "while scanning a %TAG directive"
  let (handle, after) ← readTagHandle true start cursor.skipBlanks
  if !after.next isBlank then
    throw (.during context start "did not find expected whitespace" after.mark)
  let (meaning, after) ← readTagSuffix true true [] start after.skipBlanks
  if !after.spaceAt 0 then
    throw (.during context start "did not find expected whitespace or line break" after.mark)
  pure (.tagDirective (String.ofList handle) meaning, after)

/-- Reads a directive to the end of its line. The cursor stands on the percent sign. -/
def readDirective (cursor : Cursor) : Except SyntaxError (Lexeme × Cursor) := do
  let start := cursor.mark
  let context := "while scanning a directive"
  let (name, after) := cursor.advance.span isWordChar
  if name.isEmpty then
    throw (.during context start "could not find expected directive name" after.mark)
  if !after.spaceAt 0 then
    throw (.during context start "found unexpected non-alphabetical character" after.mark)
  let (token, after) ←
    if name == "YAML".toList then readVersion start after
    else if name == "TAG".toList then readTagMeaning start after
    else throw (.during context start "found unknown directive name" after.mark)
  let stop := after.mark
  let after := after.skipBlanks.skipComment
  if !after.atLineEnd then
    throw (.during context start "did not find expected comment or line break" after.mark)
  pure (⟨token, start, stop⟩, after.advanceLine)

end RuntimeLauncher.Yaml
