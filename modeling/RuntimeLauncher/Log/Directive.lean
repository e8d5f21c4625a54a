import RuntimeLauncher.Log
import RuntimeLauncher.Log.Pattern
import RuntimeLauncher.Text.Character
import RuntimeLauncher.Text.Pieces
import RuntimeLauncher.Text.Slice

/-!
# Rules for the log

A rule says down to which level events are shown, and which events it speaks about.

## Main Definitions

* `Log.Directive` — one rule
* `Log.Directive.Draft` — a rule on the way, with the part that is being read
* `Log.Directive.parse` — reads a rule

## Design Notes

A rule is a level, a speaker, or a speaker with a level. A speaker stands for all whose name begins
like it. Behind the speaker a rule may name a span, or a field with or without a value, in brackets.

Blanks around a rule are left out when its parts are found, and the places of the parts are counted
without them. The parts are then cut out of the rule as it is written. So a blank in front of a rule
shifts all of its parts, and a wide one can make a part begin or end inside a character.
-/

namespace RuntimeLauncher.Log

/-- The least severe level that is shown, as a rank. Zero shows nothing. -/
abbrev Threshold := Nat

/-- One rule. -/
structure Directive where
  target : Option (List Char)
  fields : List (List Char)
  /-- The rule is about spans, so it fits no event. -/
  spanOnly : Bool
  threshold : Threshold
deriving DecidableEq

/-! ### Levels and fields -/

/-- Everything is shown. -/
def widestThreshold : Threshold := 5

/-- The names of thresholds. -/
def thresholdNames : List (String × Threshold) :=
  [("off", 0), ("error", 1), ("warn", 2), ("info", 3), ("debug", 4), ("trace", 5)]

/-- A threshold by its number or by its name in any case. -/
def threshold? (text : List Char) : Option Threshold :=
  let digits := if text.head? == some '+' then text.drop 1 else text
  if !digits.isEmpty && digits.all Char.isDigit then
    (String.ofList digits).toNat?.filter (· ≤ widestThreshold)
  else thresholdNames.lookup (Text.lowerString (String.ofList text))

/-- The threshold after an equals sign. Nothing there stands for everything. -/
def levelPart? (text : List Char) : Option Threshold :=
  if text.isEmpty then some widestThreshold else threshold? text

/-- The names of numbers that are not written with digits. -/
def numberNames : List String := ["inf", "infinity", "nan"]

/-- A number without its sign. -/
def isUnsignedNumber (text : List Char) : Bool :=
  if numberNames.contains (Text.lowerString (String.ofList text)) then true
  else
    let whole := text.takeWhile Char.isDigit
    let rest := text.drop whole.length
    let tail := if rest.head? == some '.' then rest.drop 1 else []
    let fraction := tail.takeWhile Char.isDigit
    let rest := if rest.head? == some '.' then tail.drop fraction.length else rest
    let exponent :=
      match rest with
      | [] => true
      | c :: more =>
        let digits := if more.head? == some '+' || more.head? == some '-' then more.drop 1 else more
        (c == 'e' || c == 'E') && !digits.isEmpty && digits.all Char.isDigit
    !(whole.isEmpty && fraction.isEmpty) && exponent

/-- A value that a field can be asked for: a number or a pattern. Only a number with a plus sign is
no pattern as well. -/
def isFieldValue (text : List Char) : Bool :=
  Pattern.isValid text || (text.head? == some '+' && isUnsignedNumber (text.drop 1))

/-- A field that a rule asks for. -/
structure FieldQuery where
  name : List Char
  /-- The field must have a certain value. -/
  valued : Bool

/-- A field by its text: a name, and perhaps an equals sign and a value. What follows a second
equals sign does not count. -/
def FieldQuery.parse? (text : List Char) : Option FieldQuery :=
  if text.isEmpty then none
  else
    match Text.splitBy (· == '=') text with
    | name :: value :: _ => if isFieldValue value then some ⟨name, true⟩ else none
    | _ => some ⟨text, false⟩

/-! ### Reading rules -/

namespace Directive

/-- Why a rule cannot be read. -/
inductive Fault where
  | malformed
  /-- A part of the rule begins or ends inside a character. -/
  | slip (slip : Text.Slip)
deriving DecidableEq

/-- The part of a rule that is being read, and the byte at which it starts. -/
inductive Part where
  | start
  | levelOrTarget (first : Nat)
  | span (first : Nat)
  | field (first : Nat)
  /-- The field has ended, its brackets have not. -/
  | afterField
  | afterBrackets
  | level (first : Nat)

/-- A rule on the way. -/
structure Draft where
  part : Part
  directive : Directive

namespace Draft

/-- Nothing is read. -/
def blank : Draft := ⟨.start, ⟨none, [], false, widestThreshold⟩⟩

/-- A character that a rule can begin with. -/
def isOpening (c : Char) : Bool := c == '-' || c == ':' || c == '_' || Text.isLetterOrNumber c

/-- Goes on to another part. -/
def goTo (draft : Draft) (part : Part) : Except Fault Draft := .ok { draft with part }

/-- Goes on to another part after the speaker. -/
def named (draft : Draft) (target : List Char) (part : Part) : Draft :=
  { draft with directive.target := some target, part }

/-- A part of the rule as it is written. -/
def cut (whole : List Char) (first stop : Nat) : Except Fault (List Char) :=
  (Text.slice whole first stop).mapError .slip

/-- Reads the character at a byte position. -/
def step (whole : List Char) (draft : Draft) (i : Nat) (c : Char) : Except Fault Draft := do
  match draft.part with
  | .start =>
    if c == '[' then draft.goTo (.span (i + 1))
    else if isOpening c then draft.goTo (.levelOrTarget i)
    else throw .malformed
  | .levelOrTarget first =>
    if c == '=' then pure (draft.named (← cut whole first i) (.level (i + 1)))
    else if c == '[' then pure (draft.named (← cut whole first i) (.span (i + 1)))
    else pure draft
  | .span first =>
    if c == ']' then
      let _ ← cut whole first i
      pure { draft with directive.spanOnly := true, part := .afterBrackets }
    else if c == '\x7b' then
      let name ← cut whole first i
      pure { draft with directive.spanOnly := !name.isEmpty, part := .field (i + 1) }
    else pure draft
  | .field first =>
    if c == '\x7d' then
      match FieldQuery.parse? (← cut whole first i) with
      | none => throw .malformed
      | some query =>
        let directive := { draft.directive with
          fields := [query.name]
          spanOnly := draft.directive.spanOnly || query.valued }
        pure ⟨.afterField, directive⟩
    else pure draft
  | .afterField => if c == ']' then draft.goTo .afterBrackets else throw .malformed
  | .afterBrackets => if c == '=' then draft.goTo (.level (i + 1)) else throw .malformed
  | .level _ => pure draft

/-- Reads characters from a byte position on. -/
def read (whole : List Char) (draft : Draft) (i : Nat) : List Char → Except Fault Draft
  | [] => .ok draft
  | c :: rest =>
    match draft.step whole i c with
    | .error e => .error e
    | .ok draft => draft.read whole (i + c.utf8Size) rest

/-- The rule at the end of the text. -/
def finish (whole : List Char) (draft : Draft) : Except Fault Directive := do
  let stop := Text.byteSize whole
  match draft.part with
  | .levelOrTarget first =>
    let text ← cut whole first stop
    match levelPart? text with
    | some threshold => pure { draft.directive with threshold }
    | none => pure { draft.directive with target := some text }
  | .level first =>
    match levelPart? (← cut whole first stop) with
    | some threshold => pure { draft.directive with threshold }
    | none => throw .malformed
  | .afterBrackets => pure draft.directive
  | _ => throw .malformed

end Draft

/-- Reads a rule. -/
def parse (text : List Char) : Except Fault Directive := do
  (← Draft.blank.read text 0 (Text.trim text)).finish text

end Directive

end RuntimeLauncher.Log
