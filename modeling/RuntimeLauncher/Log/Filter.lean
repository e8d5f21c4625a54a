import RuntimeLauncher.Log.Directive

/-!
# Selecting from the log

The reader of a log says in a variable what is to be shown: a level for everything, or levels for
single speakers.

## Main Definitions

* `Log.Filter` — the rules together
* `Log.Filter.parse`, `Log.Filter.ofVariable` — reads the rules from a variable
* `Log.Filter.shows` — whether an event is shown

## Design Notes

Rules stand between commas. Nothing happens in a span here, so rules for spans never show anything,
and neither do rules for a field with a value, since the only field that events have is their
message.

The most specific rule that fits an event decides. Of two rules for the same speaker the later one
counts. A variable that is not set, or cannot be read, asks for warnings; an empty one for errors.
-/

namespace RuntimeLauncher.Log

/-- Rules in the order in which they were written. -/
structure Filter where
  directives : List Directive
deriving DecidableEq

namespace Filter

/-! ### Reading rules -/

/-- Shows everything up to a level. -/
def upTo (level : Level) : Filter := ⟨[⟨none, [], false, level.rank⟩]⟩

/-- The rules of a text. A text without rules asks for errors. -/
def parse (text : String) : Except Directive.Fault Filter := do
  match ← (Text.pieces (· == ',') text.toList).mapM Directive.parse with
  | [] => pure (upTo .error)
  | directives => pure ⟨directives⟩

/-- The rules that a variable asks for. A slip is reported and not mended. -/
def ofVariable (value : Option String) : Except Text.Slip Filter :=
  match value.map parse with
  | some (.ok filter) => .ok filter
  | some (.error (.slip slip)) => .error slip
  | some (.error .malformed) => .ok (upTo .warn)
  | none => .ok (upTo .warn)

end Filter

/-! ### Applying rules -/

namespace Directive

/-- The rule is about an event. -/
def fits (directive : Directive) (event : Event) : Bool :=
  let forTarget :=
    match directive.target with
    | none => true
    | some target => target.isPrefixOf event.target.toList
  !directive.spanOnly && forTarget && directive.fields.all (· == "message".toList)

/-- How specific a rule is: by its speaker first, then by its fields. -/
def weight (directive : Directive) : Nat × Nat :=
  let target :=
    match directive.target with
    | none => 0
    | some target => target.length + 1
  (target, directive.fields.length)

/-- The first rule is at most as specific as the second. -/
def yieldsTo (a b : Directive) : Bool :=
  a.weight.1 < b.weight.1 || (a.weight.1 == b.weight.1 && a.weight.2 ≤ b.weight.2)

end Directive

namespace Filter

/-- The rule that decides about an event. -/
def decisive? (filter : Filter) (event : Event) : Option Directive :=
  (filter.directives.filter fun directive => directive.fits event).foldl
    (fun best directive =>
      match best with
      | none => some directive
      | some other => if other.yieldsTo directive then some directive else best)
    none

/-- The event is shown. -/
def shows (filter : Filter) (event : Event) : Bool :=
  match filter.decisive? event with
  | none => false
  | some directive => event.level.rank ≤ directive.threshold

end Filter

end RuntimeLauncher.Log
