import RuntimeLauncher.Launch.Basic

/-!
# Rehearsals

A rehearsal is a launch that goes as far as handing the process over, and then only takes note of
the command.

## Main Definitions

* `Rehearsal` — what was written, and the commands that were handed over
* `Rehearsal.outlet` — the outlet that takes notes
-/

namespace RuntimeLauncher

/-- The notes of a rehearsal. -/
structure Rehearsal where
  written : String
  commands : List Command

namespace Rehearsal

/-- Nothing is noted. -/
def blank : Rehearsal := ⟨"", []⟩

/-- An outlet that takes notes. Its stream fails if `broken` says how, and handing over always fails
with `refusal`. -/
def outlet (broken : Option Failure) (refusal : Failure) : Outlet Rehearsal Empty where
  write := fun text notes =>
    match broken with
    | some e => (.error e, notes)
    | none => (.ok (), { notes with written := notes.written ++ text })
  flush := fun notes =>
    match broken with
    | some e => (.error e, notes)
    | none => (.ok (), notes)
  replace := fun command notes =>
    (.error ⟨command.runtime, refusal⟩, { notes with commands := notes.commands ++ [command] })

end Rehearsal

end RuntimeLauncher
