import RuntimeLauncher.Proofs.Discovery
import RuntimeLauncher.Proofs.Launch.HandOver

/-!
# Rows of launches

A store can serve any number of searches and launches, one after another, while the files change in
between. None of them leaves a trace in the store. So each says what a launcher would say that was
built for it alone.

## Main Definitions

* `Setup` — what a launcher is built from
* `Act`, `Reply` — what can happen around a store, and what it says
* `Scene` — what else acts work on: the files and the state of the outlets
* `Act.perform`, `performAll` — an act, and a row of acts that looks at the store after each
* `Act.Says`, `SayInTurn` — what acts say, by launchers that are built anew on one store

## Main Statements

* `Act.Says.answers`, `Act.exists_says` — an act says that and keeps the store, however it ends
* `acts_keep_store` — so do the acts of a row

## Design Notes

A launcher looks at the files when it is used, so an act takes them from the scene. The outlets of
one row share a state, since a stream goes on from where the launch before left it. The rules of
`SayInTurn` know one store only, the one before the row, and never one that an act has left.
-/

namespace RuntimeLauncher

namespace Launcher

/-- What a launcher is built from, apart from the store and the files. -/
structure Setup where
  settings : Settings
  environment : Environment
  workDir : String

/-- The launcher, used while the files are these. -/
def Setup.launcher (setup : Setup) (files : Files) : Launcher :=
  ⟨setup.settings, setup.environment, files, setup.workDir⟩

/-- What can happen around a store. -/
inductive Act (σ ρ : Type) where
  | locate (settings : RuntimeSettings)
  | findProxy (settings : ProxySettings)
  | prepare (setup : Setup)
  | run (setup : Setup) (outlet : Outlet σ ρ)
  /-- The files are others from now on. -/
  | change (files : Files)

/-- What an act says. -/
inductive Reply (ρ : Type) where
  | located (result : Except LocateError String)
  | proxied (address : Option String)
  | prepared (result : Except LaunchError Command)
  | ran (result : Except LaunchError ρ)
  | changed

/-- What acts work on, apart from the store. -/
structure Scene (σ : Type) where
  files : Files
  /-- The state of the outlets. -/
  outlets : σ

variable {σ ρ : Type}

/-- Performs an act. -/
def Act.perform : Act σ ρ → StateT (Scene σ) Session (Reply ρ)
  | .locate settings => do
    let result ← StateT.lift (locateRuntime settings)
    pure (.located result)
  | .findProxy settings => do
    let address ← StateT.lift (resolveProxy settings)
    pure (.proxied address)
  | .prepare setup => do
    let scene ← get
    let result ← StateT.lift (setup.launcher scene.files).prepare
    pure (.prepared result)
  | .run setup outlet => do
    let scene ← get
    let (result, outlets) ←
      StateT.lift (((setup.launcher scene.files).run outlet).run scene.outlets)
    set { scene with outlets }
    pure (.ran result)
  | .change files => do
    modify fun scene => { scene with files }
    pure .changed

/-- Performs a row of acts. Each entry has what an act says, and the store after it. -/
def performAll : List (Act σ ρ) → StateT (Scene σ) Session (List (Reply ρ × Store))
  | [] => pure []
  | act :: rest => do
    let reply ← act.perform
    let store ← StateT.lift (get : Session Store)
    let entries ← performAll rest
    pure ((reply, store) :: entries)

/-! ### One act -/

/-- What an act says in a scene, and the scene after it. Every launcher is built anew, on this
store and the files of the scene. -/
inductive Act.Says (store : Store) : Act σ ρ → Scene σ → Reply ρ → Scene σ → Prop where
  | locate {settings : RuntimeSettings} {scene : Scene σ} {result : Except LocateError String}
      (h : (locateRuntime settings).Answers store result) :
      Says store (.locate settings) scene (.located result) scene
  | findProxy {settings : ProxySettings} {scene : Scene σ} {address : Option String}
      (h : (resolveProxy settings).Answers store address) :
      Says store (.findProxy settings) scene (.proxied address) scene
  | prepare {setup : Setup} {scene : Scene σ} {result : Except LaunchError Command}
      (h : (setup.launcher scene.files).prepare.Answers store result) :
      Says store (.prepare setup) scene (.prepared result) scene
  | run {setup : Setup} {outlet : Outlet σ ρ} {scene : Scene σ} {result : Except LaunchError ρ}
      {outlets : σ}
      (h : (((setup.launcher scene.files).run outlet).run scene.outlets).Answers store
        (result, outlets)) :
      Says store (.run setup outlet) scene (.ran result) { scene with outlets }
  | change {files : Files} {scene : Scene σ} :
      Says store (.change files) scene .changed { scene with files }

section Rules

variable {α β : Type} {store : Store} {scene middle : Scene σ}

/-- One step after another, from one scene to the next. -/
theorem answers_run_bind {step : StateT (Scene σ) Session α}
    {f : α → StateT (Scene σ) Session β} {a : α} {b : β × Scene σ}
    (h : (step.run scene).Answers store (a, middle)) (hf : ((f a).run middle).Answers store b) :
    ((step >>= f).run scene).Answers store b := by
  rw [StateT.run_bind]
  exact h.bind hf

/-- A session that is part of an act leaves the scene alone. -/
theorem answers_run_lift {session : Session α} {a : α} (h : session.Answers store a) :
    ((StateT.lift session : StateT (Scene σ) Session α).run scene).Answers store (a, scene) :=
  h.bind (.pure (a, scene))

/-- Looking at the scene. -/
theorem answers_run_get :
    ((get : StateT (Scene σ) Session (Scene σ)).run scene).Answers store (scene, scene) :=
  .pure (scene, scene)

end Rules

/-- **An act says what a launcher built anew says, and keeps the store.** -/
theorem Act.Says.answers {store : Store} {act : Act σ ρ} {scene scene' : Scene σ} {reply : Reply ρ}
    (h : act.Says store scene reply scene') :
    (act.perform.run scene).Answers store (reply, scene') := by
  cases h with
  | locate h => exact answers_run_bind (answers_run_lift h) (.pure _)
  | findProxy h => exact answers_run_bind (answers_run_lift h) (.pure _)
  | prepare h =>
    exact answers_run_bind answers_run_get (answers_run_bind (answers_run_lift h) (.pure _))
  | run h =>
    exact answers_run_bind answers_run_get (answers_run_bind (answers_run_lift h) (.pure _))
  | change => exact .pure _

/-- **Every act ends, in every scene and on every store.** -/
theorem Act.exists_says (store : Store) (act : Act σ ρ) (scene : Scene σ) :
    ∃ reply scene', act.Says store scene reply scene' := by
  cases act with
  | locate settings =>
    obtain ⟨result, h⟩ := locateRuntime_restores settings store
    exact ⟨_, _, .locate h⟩
  | findProxy settings =>
    obtain ⟨address, h⟩ := resolveProxy_restores settings store
    exact ⟨_, _, .findProxy h⟩
  | prepare setup =>
    obtain ⟨result, h⟩ := exists_settles (setup.launcher scene.files) store
    exact ⟨_, _, .prepare h.answers⟩
  | run setup outlet =>
    obtain ⟨prepared, h⟩ := exists_settles (setup.launcher scene.files) store
    exact ⟨_, _, .run (run_answers h.answers outlet scene.outlets)⟩
  | change files => exact ⟨_, _, .change⟩

/-! ### Rows of acts -/

/-- What the acts of a row say one after another, all of them on this store. -/
inductive SayInTurn (store : Store) :
    List (Act σ ρ) → Scene σ → List (Reply ρ) → Scene σ → Prop where
  | nil {scene : Scene σ} : SayInTurn store [] scene [] scene
  | cons {act : Act σ ρ} {rest : List (Act σ ρ)} {scene middle last : Scene σ} {reply : Reply ρ}
      {replies : List (Reply ρ)} (h : act.Says store scene reply middle)
      (hrest : SayInTurn store rest middle replies last) :
      SayInTurn store (act :: rest) scene (reply :: replies) last

/-- The acts of a row say that, and the store is the same after each of them. -/
theorem SayInTurn.answers {store : Store} {acts : List (Act σ ρ)} {start last : Scene σ}
    {replies : List (Reply ρ)} (h : SayInTurn store acts start replies last) :
    ((performAll acts).run start).Answers store
      (replies.map fun reply => (reply, store), last) := by
  induction h with
  | nil => exact .pure _
  | cons h hrest ih =>
    -- The store that is looked at between two acts is the one that the first of them has left.
    have hstore : (get : Session Store).Answers store store := ⟨[], Logged.Yields.pure _⟩
    refine answers_run_bind h.answers ?_
    refine answers_run_bind (answers_run_lift hstore) ?_
    exact answers_run_bind ih (.pure _)

theorem exists_sayInTurn (store : Store) (acts : List (Act σ ρ)) (start : Scene σ) :
    ∃ replies last, SayInTurn store acts start replies last := by
  induction acts generalizing start with
  | nil => exact ⟨[], start, .nil⟩
  | cons act rest ih =>
    obtain ⟨reply, middle, h⟩ := act.exists_says store start
    obtain ⟨replies, last, hrest⟩ := ih middle
    exact ⟨reply :: replies, last, .cons h hrest⟩

/-- **Searches and launches leave the store as it was.**  A row of them, with changes of the files
in between, comes to an end on every store. The store is the same after each of its acts and in the
end, with as many handles open, and each act says what a launcher says that is built anew on the
first store and used on the files of the moment. -/
theorem acts_keep_store (store : Store) (acts : List (Act σ ρ)) (start : Scene σ) :
    ∃ replies last events, SayInTurn store acts start replies last ∧
      (((performAll acts).run start).run store).Yields
        ((replies.map fun reply => (reply, store), last), store) events := by
  obtain ⟨replies, last, h⟩ := exists_sayInTurn store acts start
  obtain ⟨events, hyields⟩ := h.answers
  exact ⟨replies, last, events, h, hyields⟩

end Launcher

end RuntimeLauncher
