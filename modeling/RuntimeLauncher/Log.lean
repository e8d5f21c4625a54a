import RuntimeLauncher.Text.Character

/-!
# The log

The launcher tells what it does in events. Collecting them is part of its result, so nothing here
writes to a stream.

## Main Definitions

* `Log.Level`, `Log.Event` — one entry and how severe it is
* `Log.shownMessage`, `Log.line` — how an entry is written
* `Logged` — a computation that adds events to a log
* `Logged.debug`, `Logged.warn`, `Logged.trace` — add one event

## Design Notes

An event names the module that speaks as its target, since the reader of a log may select by it.
Events stand in the order in which they happened.

A line holds the time, the level in five columns, the speaker and the message. The control
characters that terminals react to are written out, so that no message can change the look of a
terminal. Line ends and tabs stay.
-/

namespace RuntimeLauncher

namespace Log

/-- How severe an event is, from the gravest to the least. -/
inductive Level where
  | error
  | warn
  | info
  | debug
  | trace
deriving DecidableEq

/-- The severities in order: the gravest is lowest. -/
def Level.rank : Level → Nat
  | .error => 1
  | .warn => 2
  | .info => 3
  | .debug => 4
  | .trace => 5

/-- The name of a level in a log line. -/
def Level.name : Level → String
  | .error => "ERROR"
  | .warn => "WARN"
  | .info => "INFO"
  | .debug => "DEBUG"
  | .trace => "TRACE"

/-- One entry of the log. -/
structure Event where
  level : Level
  /-- The part of the launcher that speaks. -/
  target : String
  message : String
deriving DecidableEq

/-! ### Lines -/

/-- The control characters of seven bits that terminals react to. -/
def steering : List Char := ['\x1b', '\x07', '\x08', '\x0c', '\x7f']

/-- How a character of a message is shown. -/
def shownChar (c : Char) : List Char :=
  if steering.contains c then
    let digits := Text.hexDigits c.toNat
    ['\\', 'x'] ++ List.replicate (2 - digits.length) '0' ++ digits
  else if 0x80 ≤ c.toNat && c.toNat ≤ 0x9f then
    ['\\', 'u', '\x7b'] ++ Text.hexDigits c.toNat ++ ['\x7d']
  else [c]

/-- A message without characters that steer a terminal. -/
def shownMessage (message : String) : String :=
  String.ofList (message.toList.flatMap shownChar)

/-- The line for an event. -/
def line (time : String) (event : Event) : String :=
  let name := event.level.name
  let blanks := String.ofList (List.replicate (5 - name.length) ' ')
  time ++ " " ++ blanks ++ name ++ " " ++ event.target ++ ": " ++ shownMessage event.message ++ "\n"

end Log

/-! ### Collecting events -/

/-- A computation that adds events to a log. -/
abbrev Logged := StateM (List Log.Event)

namespace Logged

/-- Adds an event at the end of the log. -/
def emit (event : Log.Event) : Logged Unit := modify (· ++ [event])

/-- Adds a warning. -/
def warn (target message : String) : Logged Unit := emit ⟨.warn, target, message⟩

/-- Adds a note for a maintainer. -/
def debug (target message : String) : Logged Unit := emit ⟨.debug, target, message⟩

/-- Adds a note on a step that hardly ever matters. -/
def trace (target message : String) : Logged Unit := emit ⟨.trace, target, message⟩

/-- The value of a computation and the events it added, in order. -/
def collect {α : Type} (x : Logged α) : α × List Log.Event := x.run []

end Logged

end RuntimeLauncher
