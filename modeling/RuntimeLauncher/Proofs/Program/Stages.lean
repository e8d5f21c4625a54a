import RuntimeLauncher.Files.View
import RuntimeLauncher.Proofs.Launch.HandOver
import RuntimeLauncher.Proofs.Settings.Search
import RuntimeLauncher.Program.Basic

/-!
# How the whole program comes out

The program goes through its stages in a fixed order: settings, working directory, store, the two
checks of the launch, and handing over. The first one that fails decides. Up to the command nothing
is written for the user but on the error stream.

## Main Definitions

* `Program.HasSettings`, `Program.HasStore` — what the first and the third stage come to
* `Program.Stages` — how the stages before handing over come out, as rules
* `Program.Ending.of` — the end of the program for the result of a launch

## Main Statements

* `Program.prepare_yields_iff_stages` — the stages come out as the rules say
* `Program.run_of_unbroken` — the program ends as its launch is concluded
* `Program.first_failing_stage_decides` — the whole program, on every host
* `Program.crashes_on_wide_blank` — a variable for the log that keeps a sound launch from happening

## Design Notes

Two things can go wrong outside of the stages. The variable for the log can have a rule that no one
can take apart, which ends the program before its first stage. And the error stream can fail when
there is something to be shown on it. Both are crashes.
-/

namespace RuntimeLauncher.Program

/-! ### The stages as rules -/

/-- All settings files that are there can be used, and together they make the settings. -/
def HasSettings (host : Host) (settings : Settings) : Prop :=
  ∃ layer events, Layer.Visits host.files .blank (Layer.existing host.files host.settingsDirs)
    (.ok layer) events ∧ settings = layer.resolve

/-- Some settings file that is there cannot be used, and the error tells the first one. -/
def LacksSettings (host : Host) (e : DocumentFile.Error) : Prop :=
  ∃ events, Layer.Visits host.files .blank (Layer.existing host.files host.settingsDirs)
    (.error e) events

/-- The file of the store: the one that the settings name, or else the one in the user's
directory. -/
inductive StoreFile (host : Host) (settings : Settings) : String → Prop where
  | named {path : String} (h : settings.storeFile = some path) : StoreFile host settings path
  | default {dir : String} (hnone : settings.storeFile = none) (h : host.configDir? = some dir) :
      StoreFile host settings (Path.join dir "store.yml")

/-- The store that the launcher works with. -/
inductive HasStore (host : Host) (settings : Settings) : Store → Prop where
  /-- No file is named, and the user has no directory. -/
  | nowhere (hnone : settings.storeFile = none) (h : host.configDir? = none) :
      HasStore host settings .empty
  | absent {path : String} (hpath : StoreFile host settings path)
      (h : ¬ ∃ kind, host.files.stat path = .ok kind) : HasStore host settings .empty
  | loaded {path : String} {store : Store} (hpath : StoreFile host settings path)
      (hpresent : ∃ kind, host.files.stat path = .ok kind)
      (h : DocumentFile.load host.files .store path Store.ofText = .ok store) :
      HasStore host settings store

/-- The file of the store is there and cannot be used. -/
def LacksStore (host : Host) (settings : Settings) (e : DocumentFile.Error) : Prop :=
  ∃ path, StoreFile host settings path ∧ (∃ kind, host.files.stat path = .ok kind) ∧
    DocumentFile.load host.files .store path Store.ofText = .error e

/-- How the stages before handing over come out. Each rule looks at the stages up to the one that
decides. -/
inductive Stages (host : Host) : Except LaunchError Command → Prop where
  | settings {e : DocumentFile.Error} (h : LacksSettings host e) :
      Stages host (.error (.configuration e.chain))
  | workDir {settings : Settings} {failure : Failure} (hsettings : HasSettings host settings)
      (h : host.workDir = .error failure) :
      Stages host (.error (.configuration ["Failed to read working directory", failure.message]))
  | store {settings : Settings} {dir : String} {e : DocumentFile.Error}
      (hsettings : HasSettings host settings) (hdir : host.workDir = .ok dir)
      (h : LacksStore host settings e) : Stages host (.error (.configuration e.chain))
  | checks {settings : Settings} {dir : String} {store : Store}
      {outcome : Except LaunchError Command} (hsettings : HasSettings host settings)
      (hdir : host.workDir = .ok dir) (hstore : HasStore host settings store)
      (h : (launcher host settings dir).Settles store outcome) : Stages host outcome

variable {host : Host} {settings : Settings} {outcome : Except LaunchError Command}

theorem HasSettings.yields (h : HasSettings host settings) :
    ∃ events, (readSettings host).Yields (.ok settings) events := by
  obtain ⟨layer, events, hvisits, rfl⟩ := h
  exact hvisits.searchOnto_yields.exists_bind ⟨[], .pure _⟩

theorem LacksSettings.yields {e : DocumentFile.Error} (h : LacksSettings host e) :
    ∃ events, (readSettings host).Yields (.error (.configuration e.chain)) events := by
  obtain ⟨events, hvisits⟩ := h
  exact hvisits.searchOnto_yields.exists_bind ⟨[], .pure _⟩

theorem StoreFile.storeFile?_eq {path : String} (h : StoreFile host settings path) :
    host.storeFile? settings = some path := by
  cases h with
  | named h => rw [Host.storeFile?, h, Option.some_or]
  | default hnone h => rw [Host.storeFile?, hnone, h, Option.none_or, Option.map_some]

theorem HasStore.yields {store : Store} (h : HasStore host settings store) :
    ∃ events, (readStore host settings).Yields (.ok store) events := by
  rw [readStore]
  cases h with
  | nowhere hnone h =>
    have hstore : host.storeFile? settings = none := by
      rw [Host.storeFile?, hnone, h, Option.none_or, Option.map_none]
    rw [hstore]
    exact ⟨[], .pure _⟩
  | @absent path hpath h =>
    have hload : (Store.load host.files path).Yields (.ok Store.empty)
        [⟨.debug, Store.logTarget, "No store file at " ++ path ++ ", using empty store"⟩] := by
      rw [Store.load, if_neg (mt Launcher.present_iff.1 h)]
      exact (Logged.yields_emit _).bind (.pure _)
    rw [hpath.storeFile?_eq]
    exact hload.exists_bind ⟨[], .pure _⟩
  | @loaded path store hpath hpresent h =>
    have hload : (Store.load host.files path).Yields (.ok store) [] := by
      rw [Store.load, if_pos (Launcher.present_iff.2 hpresent), h]
      exact .pure _
    rw [hpath.storeFile?_eq]
    exact hload.exists_bind ⟨[], .pure _⟩

theorem LacksStore.yields {e : DocumentFile.Error} (h : LacksStore host settings e) :
    ∃ events, (readStore host settings).Yields (.error (.configuration e.chain)) events := by
  obtain ⟨path, hpath, hpresent, h⟩ := h
  have hload : (Store.load host.files path).Yields (.error e) [] := by
    rw [Store.load, if_pos (Launcher.present_iff.2 hpresent), h]
    exact .pure _
  rw [readStore, hpath.storeFile?_eq]
  exact hload.exists_bind ⟨[], .pure _⟩

/-- Following the stages along each rule. -/
theorem Stages.yields (h : Stages host outcome) :
    ∃ events, (prepare host).Yields outcome events := by
  refine (Logged.yields_emit _).exists_bind ?_
  cases h with
  | settings h =>
    obtain ⟨events, h⟩ := h.yields
    exact h.exists_bind ⟨[], .pure _⟩
  | workDir hsettings h =>
    obtain ⟨events, hsettings⟩ := hsettings.yields
    refine hsettings.exists_bind ?_
    simp only [readWorkDir, h]
    exact ⟨[], .pure _⟩
  | store hsettings hdir h =>
    obtain ⟨events, hsettings⟩ := hsettings.yields
    obtain ⟨later, h⟩ := h.yields
    refine hsettings.exists_bind ?_
    simp only [readWorkDir, hdir]
    exact h.exists_bind ⟨[], .pure _⟩
  | checks hsettings hdir hstore h =>
    obtain ⟨events, hsettings⟩ := hsettings.yields
    obtain ⟨later, hstore⟩ := hstore.yields
    obtain ⟨last, h⟩ := h.answers
    refine hsettings.exists_bind ?_
    simp only [readWorkDir, hdir]
    exact hstore.exists_bind (h.exists_bind ⟨[], .pure _⟩)

/-! ### One of the rules applies -/

theorem hasSettings_or_lacksSettings (host : Host) :
    (∃ settings, HasSettings host settings) ∨ ∃ e, LacksSettings host e := by
  obtain ⟨outcome, events, h⟩ :=
    Layer.exists_visits host.files .blank (Layer.existing host.files host.settingsDirs)
  cases outcome with
  | ok layer => exact .inl ⟨_, layer, events, h, rfl⟩
  | error e => exact .inr ⟨e, events, h⟩

theorem hasStore_or_lacksStore (host : Host) (settings : Settings) :
    (∃ store, HasStore host settings store) ∨ ∃ e, LacksStore host settings e := by
  have hfile {path : String} (hpath : StoreFile host settings path) :
      (∃ store, HasStore host settings store) ∨ ∃ e, LacksStore host settings e := by
    by_cases hpresent : ∃ kind, host.files.stat path = .ok kind
    · cases hload : DocumentFile.load host.files .store path Store.ofText with
      | ok store => exact .inl ⟨store, .loaded hpath hpresent hload⟩
      | error e => exact .inr ⟨e, path, hpath, hpresent, hload⟩
    · exact .inl ⟨_, .absent hpath hpresent⟩
  cases hnamed : settings.storeFile with
  | some path => exact hfile (.named hnamed)
  | none =>
    cases hdir : host.configDir? with
    | some dir => exact hfile (.default hnamed hdir)
    | none => exact .inl ⟨_, .nowhere hnamed hdir⟩

/-- On every host one of the rules applies. -/
theorem exists_stages (host : Host) : ∃ outcome, Stages host outcome := by
  obtain ⟨settings, hsettings⟩ | ⟨e, h⟩ := hasSettings_or_lacksSettings host
  · cases hdir : host.workDir with
    | error failure => exact ⟨_, .workDir hsettings hdir⟩
    | ok dir =>
      obtain ⟨store, hstore⟩ | ⟨e, h⟩ := hasStore_or_lacksStore host settings
      · obtain ⟨outcome, h⟩ := (launcher host settings dir).exists_settles store
        exact ⟨outcome, .checks hsettings hdir hstore h⟩
      · exact ⟨_, .store hsettings hdir h⟩
  · exact ⟨_, .settings h⟩

/-- **The stages come out as the rules say.** -/
theorem prepare_yields_iff_stages :
    (∃ events, (prepare host).Yields outcome events) ↔ Stages host outcome := by
  refine ⟨fun ⟨events, h⟩ => ?_, Stages.yields⟩
  obtain ⟨outcome', hstages⟩ := exists_stages host
  obtain ⟨later, h'⟩ := hstages.yields
  obtain rfl := (h.unique h').1
  exact hstages

/-- The stages come out in one way. -/
theorem Stages.unique {other : Except LaunchError Command} (h : Stages host outcome)
    (hother : Stages host other) : outcome = other := by
  obtain ⟨events, h⟩ := h.yields
  obtain ⟨later, hother⟩ := hother.yields
  exact (h.unique hother).1

/-- A stage before handing over fails with the code 1. -/
theorem Stages.exitCode_eq {e : LaunchError} (h : Stages host (.error e)) : e.exitCode = 1 := by
  cases h with
  | settings | workDir | store => rfl
  | checks _ _ _ h => exact h.exitCode_eq

/-! ### From the stages to the end of the program -/

/-- The end of the program for the result of a launch. -/
def Ending.of {ρ : Type} : Except LaunchError ρ → Ending ρ
  | .ok result => .replaced result
  | .error e => .exited e.exitCode

section Run

variable {σ ρ : Type} {filter : Log.Filter} {failure : Failure}
  {events before : List Log.Event} {command : Command} {outlet : Outlet σ ρ}

theorem Stages.exists_collect (h : Stages host outcome) :
    ∃ events, (prepare host).collect = (outcome, events) := by
  obtain ⟨events, h⟩ := h.yields
  exact ⟨events, h []⟩

theorem run_of_filter (h : host.logFilter = .ok filter) :
    run host outlet = runWith host filter outlet := by
  rw [run, h]

/-- Nothing is shown on a stream that fails. -/
theorem goOn_of_quiet (h : host.brokenErrors = none ∨ events.any filter.shows = false)
    (next : StateM σ (Outcome ρ)) : goOn host filter events next = next := by
  rw [goOn]
  rcases h with h | h
  · rw [h]
  · rw [h]
    split <;> rfl

/-- Something is to be shown on a stream that fails. -/
theorem goOn_of_loud (hbroken : host.brokenErrors = some failure)
    (h : events.any filter.shows = true) (next : StateM σ (Outcome ρ)) :
    goOn host filter events next = pure (crash host (.errorStream failure filter)) := by
  rw [goOn, hbroken, h]
  rfl

/-- Shows a command, and tells the events of that. -/
def showing (outlet : Outlet σ ρ) (command : Command) : StateM σ (List Log.Event) := fun state =>
  let (((), state), events) := ((Launcher.announce outlet command).run state).collect
  (events, state)

theorem exists_run_showing (outlet : Outlet σ ρ) (command : Command) (start : σ) :
    ∃ shown, (showing outlet command).run start =
      (shown, ((outlet.echo command.echoLine).run start).2) := by
  obtain ⟨events, h⟩ := Launcher.announce_leaves outlet command start
  refine ⟨events, ?_⟩
  have hcollect : ((Launcher.announce outlet command).run start).collect = _ := h []
  change (showing outlet command) start = _
  rw [showing, hcollect]
  rfl

/-- What the program leaves when the launch is concluded. -/
def concluded (host : Host) (filter : Log.Filter) (events : List Log.Event) :
    Except LaunchError ρ → Outcome ρ
  | .error e => fail host filter events e
  | .ok result => ⟨.replaced result, logText host filter events⟩

/-- The program up to a stage that fails. -/
theorem runWith_of_error {e : LaunchError} (h : (prepare host).collect = (.error e, before)) :
    runWith host filter outlet = goOn host filter before (pure (fail host filter before e)) := by
  rw [runWith, h]

/-- Hands the process over, and tells the end of the program. -/
def handing (host : Host) (filter : Log.Filter) (outlet : Outlet σ ρ) (command : Command)
    (events : List Log.Event) : StateM σ (Outcome ρ) := do
  let result ← Launcher.handOver outlet command
  pure (concluded host filter events result)

/-- The program with a command: it is shown, and the process is handed over. -/
theorem runWith_of_ok (h : (prepare host).collect = (.ok command, before)) :
    runWith host filter outlet = goOn host filter before (showing outlet command >>= fun shown =>
      goOn host filter shown (handing host filter outlet command (before ++ shown))) := by
  rw [runWith, h]
  refine congrArg (goOn host filter before) (bind_congr fun shown => ?_)
  refine congrArg (goOn host filter shown) (bind_congr fun result => ?_)
  cases result <;> rfl

theorem run_handing (outlet : Outlet σ ρ) (command : Command) (middle : σ) :
    (handing host filter outlet command events).run middle =
      (concluded host filter events ((Launcher.handOver outlet command).run middle).1,
        ((Launcher.handOver outlet command).run middle).2) := rfl

theorem run_conclude (outlet : Outlet σ ρ) (command : Command) (start : σ) :
    (Launcher.conclude outlet (.ok command)).run start =
      (Launcher.handOver outlet command).run ((outlet.echo command.echoLine).run start).2 := rfl

theorem ending_concluded (hbroken : host.brokenErrors = none) (result : Except LaunchError ρ) :
    (concluded host filter events result).ending = .of result := by
  cases result with
  | error e =>
    rw [concluded, fail, hbroken]
    rfl
  | ok result => rfl

/-- **The program ends as its launch is concluded.** -/
theorem run_of_unbroken (hstages : Stages host outcome) (hfilter : host.logFilter = .ok filter)
    (hbroken : host.brokenErrors = none) (outlet : Outlet σ ρ) (start : σ) :
    ((run host outlet).run start).1.ending =
        .of ((Launcher.conclude outlet outcome).run start).1 ∧
      ((run host outlet).run start).2 = ((Launcher.conclude outlet outcome).run start).2 := by
  obtain ⟨before, hcollect⟩ := hstages.exists_collect
  rw [run_of_filter hfilter]
  cases outcome with
  | error e =>
    rw [runWith_of_error hcollect, goOn_of_quiet (.inl hbroken)]
    exact ⟨ending_concluded hbroken (.error e), rfl⟩
  | ok command =>
    obtain ⟨shown, hshown⟩ := exists_run_showing outlet command start
    rw [runWith_of_ok hcollect, goOn_of_quiet (.inl hbroken), Outlet.run_bind_of_eq hshown,
      goOn_of_quiet (.inl hbroken), run_handing, run_conclude]
    exact ⟨ending_concluded hbroken _, rfl⟩

/-! ### An error stream that fails -/

/-- The log on the error stream is empty exactly if no event is to be shown. -/
theorem logText_eq_empty_iff :
    logText host filter events = "" ↔ events.any filter.shows = false := by
  rw [logText, List.any_eq_false]
  induction events with
  | nil => simp
  | cons event rest ih =>
    rw [List.filter_cons, List.forall_mem_cons, ← ih]
    split
    · rename_i hshows
      rw [List.map_cons, String.join_cons, String.append_eq_empty_iff]
      simp [Log.line, hshows]
    · rename_i hhidden
      exact (and_iff_right hhidden).symm

/-- A program that did not crash has an empty error stream exactly if the process was handed over
and no event was to be shown. -/
theorem errors_concluded_eq_empty_iff (hbroken : host.brokenErrors = none)
    (result : Except LaunchError ρ) : (concluded host filter events result).errors = "" ↔
      events.any filter.shows = false ∧ ∃ r, result = .ok r := by
  cases result with
  | error e =>
    have hreport : e.report ≠ "" := by
      cases e <;> simp [LaunchError.report]
    rw [concluded, fail, hbroken]
    simp [String.append_eq_empty_iff, hreport]
  | ok r =>
    rw [concluded, logText_eq_empty_iff]
    simp

/-- A failure is told on the error stream, so there is no telling it on one that fails. -/
theorem fail_of_broken (hbroken : host.brokenErrors = some failure) (e : LaunchError) :
    (fail host filter events e : Outcome ρ) = crash host (.errorStream failure filter) := by
  rw [fail, hbroken]

/-- A crash comes about whether or not there is something to be shown before it. -/
theorem goOn_crash (hbroken : host.brokenErrors = some failure) :
    (goOn host filter events (pure (crash host (.errorStream failure filter))) :
      StateM σ (Outcome ρ)) = pure (crash host (.errorStream failure filter)) := by
  cases h : events.any filter.shows with
  | true => exact goOn_of_loud hbroken h _
  | false => exact goOn_of_quiet (.inr h) _

/-- **On an error stream that fails, the program crashes as soon as it has something to show.** It
comes out as on a stream that works if there is nothing. -/
theorem run_of_broken (hstages : Stages host outcome) (hfilter : host.logFilter = .ok filter)
    (hbroken : host.brokenErrors = some failure) (outlet : Outlet σ ρ) (start : σ) :
    let mended := { host with brokenErrors := none }
    (((run mended outlet).run start).1.errors = "" →
        (run host outlet).run start = (run mended outlet).run start) ∧
      (((run mended outlet).run start).1.errors ≠ "" →
        ((run host outlet).run start).1 = crash host (.errorStream failure filter)) := by
  intro mended
  obtain ⟨before, hcollect⟩ := hstages.exists_collect
  have hmended : (prepare mended).collect = (outcome, before) := hcollect
  have hfilter' : mended.logFilter = .ok filter := hfilter
  have hbroken' : mended.brokenErrors = none := rfl
  rw [run_of_filter hfilter, run_of_filter hfilter']
  cases outcome with
  | error e =>
    rw [runWith_of_error hmended, goOn_of_quiet (.inl hbroken'), runWith_of_error hcollect,
      fail_of_broken hbroken, goOn_crash hbroken]
    refine ⟨fun h => ?_, fun _ => rfl⟩
    exact nomatch ((errors_concluded_eq_empty_iff hbroken' (.error e)).1 h).2
  | ok command =>
    obtain ⟨shown, hshown⟩ := exists_run_showing outlet command start
    rw [runWith_of_ok hmended, goOn_of_quiet (.inl hbroken'), Outlet.run_bind_of_eq hshown,
      goOn_of_quiet (.inl hbroken'), run_handing, runWith_of_ok hcollect]
    simp only [ne_eq, errors_concluded_eq_empty_iff hbroken', List.any_append,
      Bool.or_eq_false_iff]
    cases hbefore : before.any filter.shows with
    | true =>
      rw [goOn_of_loud hbroken hbefore]
      exact ⟨nofun, fun _ => rfl⟩
    | false =>
      rw [goOn_of_quiet (.inr hbefore), Outlet.run_bind_of_eq hshown]
      cases hlater : shown.any filter.shows with
      | true =>
        rw [goOn_of_loud hbroken hlater]
        exact ⟨nofun, fun _ => rfl⟩
      | false =>
        rw [goOn_of_quiet (.inr hlater), run_handing]
        cases ((Launcher.handOver outlet command).run
            ((outlet.echo command.echoLine).run start).2).1 with
        | error e => exact ⟨nofun, fun _ => fail_of_broken hbroken e⟩
        | ok result => exact ⟨fun _ => rfl, fun h => absurd ⟨⟨rfl, rfl⟩, result, rfl⟩ h⟩

end Run

/-! ### The whole program -/

section Whole

variable {σ ω κ ρ : Type}

/-- If a stage before handing over fails, nothing is done to the outlet, even in a crash. -/
theorem run_snd_of_error {e : LaunchError} (h : Stages host (.error e)) (outlet : Outlet σ ρ)
    (start : σ) : ((run host outlet).run start).2 = start := by
  obtain ⟨before, hcollect⟩ := h.exists_collect
  cases hfilter : host.logFilter with
  | error slip =>
    rw [run, hfilter]
    rfl
  | ok filter =>
    rw [run_of_filter hfilter, runWith_of_error hcollect, goOn]
    split
    · split <;> rfl
    · rfl

/-- **The first stage that fails decides, on every host.**  The stages come out in one way. If one
of them fails before the process is handed over, nothing is written for the user and nothing is
handed over, and the program ends with the code 1. If none fails, the command is shown and the
process is handed over to it; the program ends with the code of the system if that fails. This is so
unless the variable for the log has a rule that cannot be taken apart, or there is something to be
shown on an error stream that fails. The program crashes then. -/
theorem first_failing_stage_decides (host : Host) (writer : Writer ω)
    (replacer : Command → StateM κ (Except ExecError ρ)) (out : ω) (state : κ) :
    let outlet := Outlet.ofParts writer replacer
    ∃ prepared, (∀ other, Stages host other ↔ other = prepared) ∧
      (∀ e, prepared = .error e → e.exitCode = 1 ∧
        ((run host outlet.recorded).run ((out, state), [])).2 = ((out, state), [])) ∧
      match host.logFilter, host.brokenErrors with
      | .error slip, _ => (run host outlet.recorded).run ((out, state), []) =
          (crash host (.logRules slip), ((out, state), []))
      | .ok _, none =>
        ∃ result out' state' calls,
          ((run host outlet).run (out, state)).1.ending = .of result ∧
          ((run host outlet).run (out, state)).2 = (out', state') ∧
          ((run host outlet.recorded).run ((out, state), [])).2 = ((out', state'), calls) ∧
          match prepared with
          | .error e => result = .error e
          | .ok command =>
            Launcher.HandsOver writer replacer command out state result out' state' calls
      | .ok filter, some failure =>
        let mended := { host with brokenErrors := none }
        (((run mended outlet).run (out, state)).1.errors = "" →
            (run host outlet).run (out, state) = (run mended outlet).run (out, state)) ∧
          (((run mended outlet).run (out, state)).1.errors ≠ "" →
            ((run host outlet).run (out, state)).1 = crash host (.errorStream failure filter)) := by
  intro outlet
  obtain ⟨prepared, hstages⟩ := exists_stages host
  refine ⟨prepared, fun other => ⟨fun h => h.unique hstages, ?_⟩, ?_, ?_⟩
  · rintro rfl
    exact hstages
  · rintro e rfl
    exact ⟨hstages.exitCode_eq, run_snd_of_error hstages _ _⟩
  · cases hfilter : host.logFilter with
    | error slip =>
      rw [run, hfilter]
      rfl
    | ok filter =>
      cases hbroken : host.brokenErrors with
      | some failure => exact run_of_broken hstages hfilter hbroken outlet (out, state)
      | none =>
        obtain ⟨hending, hplain⟩ := run_of_unbroken hstages hfilter hbroken outlet (out, state)
        obtain ⟨-, hrecorded⟩ :=
          run_of_unbroken hstages hfilter hbroken outlet.recorded ((out, state), [])
        cases prepared with
        | error e => exact ⟨.error e, out, state, [], hending, hplain, hrecorded, rfl⟩
        | ok command =>
          obtain ⟨result, out', state', calls, hconclude, hcalls, hands⟩ :=
            Launcher.exists_handsOver writer replacer command out state
          rw [hconclude] at hending hplain
          rw [hcalls] at hrecorded
          exact ⟨result, out', state', calls, hending, hplain, hrecorded, hands⟩

end Whole

/-! ### A variable for the log that crashes the program -/

/-- A stream that takes every text. -/
def heldStream : Writer String where
  write := fun text out => (.ok (), out ++ text)
  flush := fun out => (.ok (), out)
  output := id
  output_write _ _ _ := rfl
  output_flush _ _ := rfl

/-- A store file that names a runtime. -/
def soundStore : String :=
  "local_machine:\n" ++
    "  'Software\\JavaSoft\\Java Runtime Environment':\n" ++
    "    CurrentVersion: '1.8'\n" ++
    "  'Software\\JavaSoft\\Java Runtime Environment\\1.8':\n" ++
    "    JavaHome: '../jre'\n"

/-- A store file, a runtime, and the archive that marks an installation. -/
def soundFiles : Files :=
  let file := fun text => Files.Sighting.mk (.ok .file) (.error .notFound) (.ok text)
  .ofSightings
    [("/home/.config/jxta-launcher/store.yml", file soundStore),
      ("/work/../jre/bin/java", file ""), ("/work/../lib/jxtashell.jar", file ""),
      ("/work/../lib", ⟨.ok .directory, .ok [⟨.text "jxtashell.jar", .file⟩], .error .notFound⟩)]

/-- A host on which all is in place, but with a wide blank in the variable for the log. -/
def wideBlankHost : Host where
  environment := fun name => [("HOME", "/home"), ("RUST_LOG", "\u3000x=debug")].lookup name
  files := soundFiles
  workDir := .ok "/work"
  exeDir := some "/bin"
  accountHome := none
  version := "0.1.0"
  logTime := ""
  crashTime := ""
  crashSite := ""
  brokenErrors := none

/-- The command that the host's stages come to. -/
def soundCommand : Command where
  runtime := "../jre/bin/java"
  proxy := none
  overrides := []
  classpath := ".:../lib/jxtashell.jar"
  mainClass := "net.jxta.impl.peergroup.Boot"

theorem stages_wideBlankHost : Stages wideBlankHost (.ok soundCommand) := by
  obtain ⟨outcome, hstages⟩ := exists_stages wideBlankHost
  obtain ⟨events, hcollect⟩ := hstages.exists_collect
  have hprepare : (prepare wideBlankHost).collect.1.toOption = some soundCommand := by
    decide +kernel
  rw [hcollect] at hprepare
  cases outcome with
  | error e => cases hprepare
  | ok command =>
    cases hprepare
    exact hstages

/-- **A launch with a command that does not come about.**  No stage fails, and the process would be
handed over. But the variable for the log has a rule that is cut apart within a character, and the
program crashes before its first stage. -/
theorem crashes_on_wide_blank :
    Stages wideBlankHost (.ok soundCommand) ∧ wideBlankHost.brokenErrors = none ∧
      ∃ report, (run wideBlankHost (Outlet.ofParts heldStream fun _ => pure (.ok ()))).run
        ("", ()) = (⟨.crashed report false, ""⟩, ("", ())) :=
  ⟨stages_wideBlankHost, rfl, _, rfl⟩

end RuntimeLauncher.Program
