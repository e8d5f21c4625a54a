import RuntimeLauncher.Log

/-!
# Logged computations only add to the log

A logged computation could look into the log. Those of the launcher never do: each has one value and
one row of events, which it adds to whatever stands in the log.

## Main Definitions

* `Logged.Yields` — the value and the events of a computation, for every log

## Main Statements

* `Yields.pure`, `Yields.bind`, `yields_emit` — the rules by which computations are taken apart
* `Yields.unique` — value and events are determined
-/

namespace RuntimeLauncher.Logged

variable {α β : Type}

/-- The computation has this value and adds these events, whatever stands in the log. -/
def Yields (x : Logged α) (value : α) (events : List Log.Event) : Prop :=
  ∀ log, x.run log = (value, log ++ events)

theorem Yields.pure (value : α) : Yields (pure value : Logged α) value [] := by
  intro log
  rw [List.append_nil]
  rfl

/-- One computation after another: the value of the second, and the events of both. -/
theorem Yields.bind {x : Logged α} {f : α → Logged β} {a : α} {b : β}
    {events later : List Log.Event} (hx : x.Yields a events) (hf : (f a).Yields b later) :
    (x >>= f).Yields b (events ++ later) := by
  intro log
  rw [StateT.run_bind, hx log]
  change (f a).run (log ++ events) = _
  rw [hf, List.append_assoc]

/-- The same, where it does not matter which events there are. -/
theorem Yields.exists_bind {x : Logged α} {f : α → Logged β} {a : α} {b : β}
    {events : List Log.Event} (hx : x.Yields a events) (hf : ∃ later, (f a).Yields b later) :
    ∃ all, (x >>= f).Yields b all := by
  obtain ⟨later, hf⟩ := hf
  exact ⟨events ++ later, hx.bind hf⟩

theorem yields_emit (event : Log.Event) : (emit event).Yields () [event] := by
  intro log
  rfl

theorem Yields.unique {x : Logged α} {a b : α} {events later : List Log.Event}
    (ha : x.Yields a events) (hb : x.Yields b later) : a = b ∧ events = later := by
  have h : (a, [] ++ events) = (b, [] ++ later) := (ha []).symm.trans (hb [])
  simpa using h

end RuntimeLauncher.Logged
