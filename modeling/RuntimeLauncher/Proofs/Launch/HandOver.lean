import RuntimeLauncher.Proofs.Launch.Outcome

/-!
# What a launch does to its outlet

A launch touches its outlet only after all checks have passed. Then it shows the command, as far as
the stream lets it, and hands the process over once, to that very command. What becomes of the
process does not depend on the stream.

## Main Definitions

* `Launcher.conclude` — what a launch does once the checks have come to an end
* `Outlet.Call`, `Outlet.recorded` — an outlet that keeps a record of the calls made of it
* `Writer`, `Outlet.ofParts` — a stream with its output, and an outlet of a stream and a replacer
* `Launcher.HandsOver` — what showing a command and handing over to it comes to

## Main Statements

* `Launcher.run_answers` — a launch makes the checks and then concludes, apart from the log
* `Outlet.echo_recorded` — showing a line makes some of three calls, and none to hand over
* `Launcher.hands_over_once_after_checks` — the whole launch, with every stream and every replacer

## Design Notes

The stream and the replacer have states of their own, so what a replacer answers cannot depend on
the stream. A stream says what was written to it only where it succeeds; one that fails may have
taken any part of a text, or none.
-/

namespace RuntimeLauncher

/-! ### Steps on the state of an outlet -/

namespace Launcher

variable {σ ρ α β : Type}

/-- From a state, the step has the value `a` and leaves the state `state'`, whatever stands in the
log. -/
def Leaves (step : StateT σ Logged α) (state : σ) (a : α) (state' : σ) : Prop :=
  ∃ events, (step.run state).Yields (a, state') events

theorem leaves_pure (a : α) (state : σ) : Leaves (pure a) state a state :=
  ⟨[], Logged.Yields.pure _⟩

theorem Leaves.bind {step : StateT σ Logged α} {f : α → StateT σ Logged β} {a : α} {b : β}
    {state middle last : σ} (h : Leaves step state a middle) (hf : Leaves (f a) middle b last) :
    Leaves (step >>= f) state b last := by
  obtain ⟨events, h⟩ := h
  rw [Leaves, StateT.run_bind]
  exact h.exists_bind hf

theorem leaves_lift {note : Logged α} {a : α} {events : List Log.Event}
    (h : note.Yields a events) (state : σ) : Leaves (StateT.lift note) state a state :=
  ⟨events ++ [], h.bind (Logged.Yields.pure (a, state))⟩

theorem leaves_quietly (step : StateM σ α) (state : σ) :
    Leaves (quietly step) state (step.run state).1 (step.run state).2 :=
  ⟨[], Logged.Yields.pure _⟩

/-- Notes on the entries of a list leave the state as it was. -/
theorem leaves_forIn (entries : List α) {note : α → Logged Unit}
    (hnote : ∀ entry, ∃ events, (note entry).Yields () events) (state : σ) :
    Leaves (forIn entries PUnit.unit fun entry _ => do
      StateT.lift (note entry)
      pure (ForInStep.yield PUnit.unit)) state PUnit.unit state := by
  induction entries with
  | nil => exact leaves_pure _ _
  | cons entry rest ih =>
    obtain ⟨events, hentry⟩ := hnote entry
    rw [List.forIn_cons]
    have hfirst := (leaves_lift hentry state).bind (f := fun _ => pure (ForInStep.yield _))
      (leaves_pure (ForInStep.yield PUnit.unit) state)
    exact hfirst.bind ih

/-- **Showing a command does to the outlet what the attempt to write its line does.** -/
theorem announce_leaves (outlet : Outlet σ ρ) (command : Command) (state : σ) :
    Leaves (announce outlet command) state () ((outlet.echo command.echoLine).run state).2 := by
  have hparts (state : σ) := (leaves_forIn command.parts.zipIdx
    (fun entry => ⟨_, Logged.yields_emit
      ⟨.debug, logTarget, "argv[" ++ toString entry.2 ++ "] = " ++ entry.1⟩⟩) state).bind
    (leaves_pure () state)
  refine (leaves_quietly (outlet.echo command.echoLine) state).bind ?_
  cases ((outlet.echo command.echoLine).run state).1 with
  | ok written => exact hparts _
  | error e => exact (leaves_lift (Logged.yields_emit _) _).bind (hparts _)

/-! ### The launch apart from the log -/

/-- What a launch does once the checks have come to an end. -/
def conclude (outlet : Outlet σ ρ) :
    Except LaunchError Command → StateM σ (Except LaunchError ρ)
  | .error e => pure (.error e)
  | .ok command => do
    let _ ← outlet.echo command.echoLine
    handOver outlet command

/-- **A launch makes the checks and then concludes.** -/
theorem run_answers {launcher : Launcher} {store : Store} {prepared : Except LaunchError Command}
    (h : launcher.prepare.Answers store prepared) (outlet : Outlet σ ρ) (start : σ) :
    ((launcher.run outlet).run start).Answers store ((conclude outlet prepared).run start) := by
  rw [run, StateT.run_bind]
  refine (h.bind (Session.Answers.pure (prepared, start))).bind ?_
  cases prepared with
  | error e => exact .pure _
  | ok command =>
    obtain ⟨events, hrest⟩ := (announce_leaves outlet command start).bind
      (f := fun _ => quietly (handOver outlet command)) (leaves_quietly _ _)
    exact .log hrest

end Launcher

/-! ### Showing a line -/

namespace Outlet

variable {σ ρ α : Type} {outlet : Outlet σ ρ} {line : String} {state middle last : σ} {e : Failure}

theorem run_bind_of_eq {β : Type} {step : StateM σ α} {f : α → StateM σ β} {a : α}
    (h : step.run state = (a, middle)) : (step >>= f).run state = (f a).run middle := by
  rw [StateT.run_bind, h]
  rfl

/-- The line itself cannot be written. -/
theorem echo_of_write_error (h : (outlet.write line).run state = (.error e, last)) :
    (outlet.echo line).run state = (.error e, last) := by
  rw [echo, run_bind_of_eq h]
  rfl

/-- The end of the line cannot be written. -/
theorem echo_of_end_error (h : (outlet.write line).run state = (.ok (), middle))
    (hend : (outlet.write "\n").run middle = (.error e, last)) :
    (outlet.echo line).run state = (.error e, last) := by
  rw [echo, run_bind_of_eq h, run_bind_of_eq hend]
  rfl

/-- All is written, and it remains to flush. -/
theorem echo_of_written (h : (outlet.write line).run state = (.ok (), middle))
    (hend : (outlet.write "\n").run middle = (.ok (), last)) :
    (outlet.echo line).run state = outlet.flush.run last := by
  rw [echo, run_bind_of_eq h, run_bind_of_eq hend]

/-! ### Outlets that keep a record -/

/-- A call that is made of an outlet. -/
inductive Call where
  | write (text : String)
  | flush
  | replace (command : Command)

/-- Puts a call on record, and makes it. -/
def Call.noted (call : Call) (step : StateM σ α) : StateM (σ × List Call) α :=
  fun (state, calls) =>
    let (a, state) := step.run state
    (a, (state, calls ++ [call]))

theorem Call.run_noted (call : Call) (step : StateM σ α) (state : σ) (calls : List Call) :
    (call.noted step).run (state, calls) =
      ((step.run state).1, ((step.run state).2, calls ++ [call])) := rfl

/-- An outlet that keeps a record of the calls made of it. -/
def recorded (outlet : Outlet σ ρ) : Outlet (σ × List Call) ρ where
  write := fun text => (Call.write text).noted (outlet.write text)
  flush := Call.flush.noted outlet.flush
  replace := fun command => (Call.replace command).noted (outlet.replace command)

/-- The calls that show a line on a stream which takes everything. -/
def echoCalls (line : String) : List Call := [.write line, .write "\n", .flush]

/-- **Showing a line makes the first of three calls, and goes on as long as they succeed.** -/
theorem echo_recorded (outlet : Outlet σ ρ) (line : String) (state : σ) (calls : List Call) :
    ∃ attempt, attempt ≠ [] ∧ attempt <+: echoCalls line ∧
      (outlet.recorded.echo line).run (state, calls) =
        (((outlet.echo line).run state).1, (((outlet.echo line).run state).2, calls ++ attempt)) ∧
      (((outlet.echo line).run state).1 = .ok () → attempt = echoCalls line) := by
  have hnoted (text : String) (state : σ) (calls : List Call) :
      (outlet.recorded.write text).run (state, calls) =
        (((outlet.write text).run state).1,
          (((outlet.write text).run state).2, calls ++ [.write text])) := rfl
  rcases hline : (outlet.write line).run state with ⟨e | _, middle⟩
  · have hrecorded := hnoted line state calls
    rw [hline] at hrecorded
    refine ⟨[.write line], by simp, ⟨_, rfl⟩, ?_⟩
    rw [echo_of_write_error hline, echo_of_write_error hrecorded]
    exact ⟨rfl, nofun⟩
  · have hrecorded := hnoted line state calls
    have hrecordedEnd := hnoted "\n" middle (calls ++ [.write line])
    rw [hline] at hrecorded
    rcases hend : (outlet.write "\n").run middle with ⟨e | _, last⟩
    · rw [hend] at hrecordedEnd
      refine ⟨[.write line, .write "\n"], by simp, ⟨_, rfl⟩, ?_⟩
      rw [echo_of_end_error hline hend, echo_of_end_error hrecorded hrecordedEnd]
      exact ⟨by simp, nofun⟩
    · rw [hend] at hrecordedEnd
      refine ⟨echoCalls line, by simp [echoCalls], List.prefix_rfl, ?_⟩
      rw [echo_of_written hline hend, echo_of_written hrecorded hrecordedEnd]
      refine ⟨?_, fun _ => rfl⟩
      simp [recorded, Call.run_noted, echoCalls]

end Outlet

/-! ### Streams and replacers -/

/-- A stream that texts are written to. It can fail at any time. -/
structure Writer (ω : Type) where
  write : String → StateM ω (Except Failure Unit)
  flush : StateM ω (Except Failure Unit)
  /-- All that was written so far. -/
  output : ω → String
  output_write : ∀ text out, ((write text).run out).1 = .ok () →
    output ((write text).run out).2 = output out ++ text
  output_flush : ∀ out, (flush.run out).1 = .ok () → output (flush.run out).2 = output out

variable {ω κ ρ : Type}

/-- The stream takes a line. -/
structure Writer.Takes (writer : Writer ω) (out : ω) (line : String) : Prop where
  line_ok : ((writer.write line).run out).1 = .ok ()
  end_ok : ((writer.write "\n").run ((writer.write line).run out).2).1 = .ok ()
  flush_ok : (writer.flush.run
    ((writer.write "\n").run ((writer.write line).run out).2).2).1 = .ok ()

namespace Outlet

/-- An outlet of a stream and of something that hands processes over. -/
def ofParts (writer : Writer ω) (replacer : Command → StateM κ (Except ExecError ρ)) :
    Outlet (ω × κ) ρ where
  write := fun text (out, state) =>
    let (result, out) := (writer.write text).run out
    (result, (out, state))
  flush := fun (out, state) =>
    let (result, out) := writer.flush.run out
    (result, (out, state))
  replace := fun command (out, state) =>
    let (result, state) := (replacer command).run state
    (result, (out, state))

/-- Showing a line is a matter of the stream alone. If the stream takes the line, the output grows
by it. -/
theorem echo_ofParts (writer : Writer ω) (replacer : Command → StateM κ (Except ExecError ρ))
    (line : String) (out : ω) (state : κ) :
    ∃ result last, ((ofParts writer replacer).echo line).run (out, state) =
        (result, (last, state)) ∧
      (writer.Takes out line →
        result = .ok () ∧ writer.output last = writer.output out ++ line ++ "\n") := by
  have hwrite (text : String) (out : ω) : ((ofParts writer replacer).write text).run (out, state) =
      (((writer.write text).run out).1, (((writer.write text).run out).2, state)) := rfl
  have hline := hwrite line out
  have hend := hwrite "\n" ((writer.write line).run out).2
  cases hfirst : ((writer.write line).run out).1 with
  | error e =>
    rw [hfirst] at hline
    exact ⟨_, _, echo_of_write_error hline, fun h => nomatch hfirst.symm.trans h.line_ok⟩
  | ok written =>
    rw [hfirst] at hline
    cases hsecond : ((writer.write "\n").run ((writer.write line).run out).2).1 with
    | error e =>
      rw [hsecond] at hend
      exact ⟨_, _, echo_of_end_error hline hend, fun h => nomatch hsecond.symm.trans h.end_ok⟩
    | ok ended =>
      rw [hsecond] at hend
      refine ⟨_, _, echo_of_written hline hend, fun h => ⟨h.flush_ok, ?_⟩⟩
      rw [← writer.output_write _ _ h.line_ok, ← writer.output_write _ _ h.end_ok]
      exact writer.output_flush _ h.flush_ok

end Outlet

namespace Launcher

variable {σ : Type}

/-- Handing over passes the answer on, an error as one of the launch. -/
theorem run_handOver (outlet : Outlet σ ρ) (command : Command) (state : σ) :
    (handOver outlet command).run state =
      (((outlet.replace command).run state).1.mapError .exec,
        ((outlet.replace command).run state).2) := by
  rcases hreplace : (outlet.replace command).run state with ⟨e | result, last⟩ <;>
    rw [handOver, Outlet.run_bind_of_eq hreplace] <;> rfl

/-- The checks fail with the code 1. -/
theorem Settles.exitCode_eq {launcher : Launcher} {store : Store} {e : LaunchError}
    (h : launcher.Settles store (.error e)) : e.exitCode = 1 := by
  cases h <;> rfl

/-- What it comes to when a command is shown and the process is handed over to it. -/
structure HandsOver (writer : Writer ω) (replacer : Command → StateM κ (Except ExecError ρ))
    (command : Command) (out : ω) (state : κ) (result : Except LaunchError ρ) (out' : ω)
    (state' : κ) (calls : List Outlet.Call) : Prop where
  /-- The last call hands over, and those before it serve to show the command. -/
  calls_eq : ∃ attempt, attempt ≠ [] ∧ attempt <+: Outlet.echoCalls command.echoLine ∧
    calls = attempt ++ [.replace command]
  /-- A stream that takes the line has its output grown by it. -/
  output_eq : writer.Takes out command.echoLine →
    calls = Outlet.echoCalls command.echoLine ++ [.replace command] ∧
      writer.output out' = writer.output out ++ command.echoLine ++ "\n"
  /-- The stream changes nothing in what becomes of the process. -/
  result_eq : result = ((replacer command).run state).1.mapError .exec
  state_eq : state' = ((replacer command).run state).2
  /-- The code after a failure is the system's, if there is one. -/
  exitCode_eq : ∀ e, result = .error e → ∃ x, ((replacer command).run state).1 = .error x ∧
    e = .exec x ∧ e.exitCode = x.failure.code?.getD 1

/-- **Concluding with a command.** -/
theorem exists_handsOver (writer : Writer ω) (replacer : Command → StateM κ (Except ExecError ρ))
    (command : Command) (out : ω) (state : κ) :
    ∃ result out' state' calls,
      (conclude (Outlet.ofParts writer replacer) (.ok command)).run (out, state) =
        (result, (out', state')) ∧
      (conclude (Outlet.ofParts writer replacer).recorded (.ok command)).run ((out, state), []) =
        (result, ((out', state'), calls)) ∧
      HandsOver writer replacer command out state result out' state' calls := by
  obtain ⟨shown, out', hshown, houtput⟩ :=
    Outlet.echo_ofParts writer replacer command.echoLine out state
  obtain ⟨attempt, hne, hprefix, hrecorded, hall⟩ :=
    (Outlet.ofParts writer replacer).echo_recorded command.echoLine (out, state) []
  rw [hshown] at hrecorded hall
  refine ⟨((replacer command).run state).1.mapError .exec, out', ((replacer command).run state).2,
    attempt ++ [.replace command], ?_, ?_, ⟨attempt, hne, hprefix, rfl⟩, fun h => ?_, rfl, rfl,
    fun e he => ?_⟩
  · rw [conclude, Outlet.run_bind_of_eq hshown, run_handOver]
    rfl
  · rw [conclude, Outlet.run_bind_of_eq hrecorded, run_handOver]
    rfl
  · obtain ⟨htaken, hgrown⟩ := houtput h
    exact ⟨congrArg (· ++ _) (hall htaken), hgrown⟩
  · cases hreplace : ((replacer command).run state).1 with
    | error x =>
      rw [hreplace] at he
      cases he
      exact ⟨x, rfl, rfl, rfl⟩
    | ok result =>
      rw [hreplace] at he
      cases he

/-- **Nothing is shown or handed over unless all checks have passed, and the process is handed over
once.**  If the checks fail, the launch fails alike, and no call is made of the outlet. Otherwise
the last call of the outlet hands the process over to the very command that the checks came to, and
all calls before it serve to show that command. A stream that takes the line has its output grown by
it, and whether it does changes nothing in what is handed over or in the result. -/
theorem hands_over_once_after_checks (launcher : Launcher) (store : Store) (writer : Writer ω)
    (replacer : Command → StateM κ (Except ExecError ρ)) (out : ω) (state : κ) :
    let outlet := Outlet.ofParts writer replacer
    ∃ prepared result out' state' calls,
      launcher.prepare.Answers store prepared ∧
      ((launcher.run outlet).run (out, state)).Answers store (result, (out', state')) ∧
      ((launcher.run outlet.recorded).run ((out, state), [])).Answers store
        (result, ((out', state'), calls)) ∧
      match prepared with
      | .error e =>
        result = .error e ∧ out' = out ∧ state' = state ∧ calls = [] ∧ e.exitCode = 1
      | .ok command => HandsOver writer replacer command out state result out' state' calls := by
  intro outlet
  obtain ⟨prepared, hsettles⟩ := exists_settles launcher store
  have hprepared := hsettles.answers
  have hrun := run_answers hprepared outlet (out, state)
  have hcalls := run_answers hprepared outlet.recorded ((out, state), [])
  cases prepared with
  | error e =>
    exact ⟨_, _, out, state, [], hprepared, hrun, hcalls, rfl, rfl, rfl, rfl, hsettles.exitCode_eq⟩
  | ok command =>
    obtain ⟨result, out', state', calls, hplain, hrecorded, hands⟩ :=
      exists_handsOver writer replacer command out state
    rw [hplain] at hrun
    rw [hrecorded] at hcalls
    exact ⟨_, result, out', state', calls, hprepared, hrun, hcalls, hands⟩

end Launcher

end RuntimeLauncher
