import RuntimeLauncher.Proofs.Store.Sorted
import RuntimeLauncher.Store.Run

/-!
# Ways to keep a store

What a store says in a run of operations does not hang on the form in which the store and its
handles are kept. A keeper is one such form. Two keepers answer alike if whatever one of them does
can be followed by the other, operation by operation.

## Main Definitions

* `Keeper` — what is kept of a store and of a handle, and how the operations work on it
* `Desk`, `Keeper.step`, `Keeper.run` — a run of operations with the handles in named slots
* `Keeper.byValue` — the store and its handles as values
* `Keeper.Follows` — each operation of one keeper is followed by the other

## Main Statements

* `Follows.step`, `Follows.run` — one operation, and a row of them
* `run_byValue` — runs with values are the runs on a bench

## Design Notes

The two keepers are compared under a relation of their states and of all pairs of live handles. The
handles have to be in it, since what is kept of the store may depend on how many there are. The
relation never sees in which order the handles lie.
-/

namespace RuntimeLauncher.Store

/-- A form in which a store is kept. -/
structure Keeper (σ η : Type) where
  /-- Puts a value into the store. -/
  insert : σ → Hive → String → String → Value → σ
  /-- Opens a key of a hive. -/
  «open» : σ → Hive → String → Except Error (η × σ)
  /-- Opens a key below an open one. -/
  openSubkey : σ → η → String → Except Error (η × σ)
  /-- What one reads from through a handle. -/
  view : σ → η → Except Error Handle
  /-- Takes a handle back. -/
  release : σ → η → σ

/-- What is kept of a store, with the live handles in named slots. -/
structure Desk (σ η : Type) where
  state : σ
  slots : List (String × η)

namespace Keeper

/-! ### Runs of operations -/

section Run

variable {σ η : Type} (keeper : Keeper σ η)

/-- Releases the handle of a slot. -/
def vacate (desk : Desk σ η) (slot : String) : Desk σ η :=
  match desk.slots.lookup slot with
  | none => desk
  | some key =>
    ⟨keeper.release desk.state key, desk.slots.filter fun entry => entry.1 != slot⟩

/-- Puts the result of opening a key into a slot. -/
def occupy (desk : Desk σ η) (slot : String) (result : Except Error (η × σ)) :
    Answer × Desk σ η :=
  match result with
  | .error e => (.refused e, desk)
  | .ok (key, state) =>
    let desk := keeper.vacate ⟨state, desk.slots⟩ slot
    (.done, { desk with slots := (slot, key) :: desk.slots })

/-- Reads through the handle of a slot. -/
def consult (desk : Desk σ η) (slot : String) (read : Handle → Except Error String) :
    Answer × Desk σ η :=
  match desk.slots.lookup slot with
  | none => (.noHandle, desk)
  | some key =>
    match (keeper.view desk.state key).bind read with
    | .ok text => (.text text, desk)
    | .error e => (.refused e, desk)

/-- Works off one operation. -/
def step (desk : Desk σ η) : Step → Answer × Desk σ η
  | .insert hive path name value =>
    (.done, { desk with state := keeper.insert desk.state hive path name value })
  | .open slot hive path => keeper.occupy desk slot (keeper.open desk.state hive path)
  | .openSubkey source slot path =>
    match desk.slots.lookup source with
    | none => (.noHandle, desk)
    | some key => keeper.occupy desk slot (keeper.openSubkey desk.state key path)
  | .getString slot name => keeper.consult desk slot fun key => key.getString name
  | .readString slot name => keeper.consult desk slot fun key => key.readString name
  | .release slot => (.released (desk.slots.lookup slot).isSome, keeper.vacate desk slot)

/-- Reading changes nothing. -/
theorem consult_snd (desk : Desk σ η) (slot : String) (read : Handle → Except Error String) :
    (keeper.consult desk slot read).2 = desk := by
  rw [consult]
  split
  · rfl
  · split <;> rfl

/-- An operation that is refused changes nothing. -/
theorem step_refused (desk : Desk σ η) (operation : Step) (e : Error)
    (h : (keeper.step desk operation).1 = .refused e) : (keeper.step desk operation).2 = desk := by
  have hoccupy (slot : String) (result : Except Error (η × σ))
      (h : (keeper.occupy desk slot result).1 = .refused e) :
      (keeper.occupy desk slot result).2 = desk := by
    cases result with
    | error => rfl
    | ok => cases h
  cases operation with
  | insert => cases h
  | «open» => exact hoccupy _ _ h
  | openSubkey source =>
    rw [step] at h ⊢
    split at h
    · cases h
    · exact hoccupy _ _ h
  | getString => exact consult_snd ..
  | readString => exact consult_snd ..
  | release => cases h

/-- Works off a row of operations. -/
def run (keeper : Keeper σ η) (desk : Desk σ η) : List Step → List Answer × Desk σ η
  | [] => ([], desk)
  | step :: rest =>
    let (answer, desk) := keeper.step desk step
    let (answers, last) := keeper.run desk rest
    (answer :: answers, last)

theorem length_run (desk : Desk σ η) (steps : List Step) :
    (keeper.run desk steps).1.length = steps.length := by
  induction steps generalizing desk with
  | nil => rfl
  | cons step rest ih => simp only [run, List.length_cons, ih]

/-- A run and one operation more. -/
theorem run_concat (desk : Desk σ η) (steps : List Step) (step : Step) :
    keeper.run desk (steps ++ [step]) =
      ((keeper.run desk steps).1 ++ [(keeper.step (keeper.run desk steps).2 step).1],
        (keeper.step (keeper.run desk steps).2 step).2) := by
  induction steps generalizing desk with
  | nil => rfl
  | cons first rest ih => simp only [List.cons_append, run, ih]

end Run

/-! ### Stores and handles as values -/

/-- The store and its handles as values. -/
def byValue : Keeper Store Handle where
  insert := Store.insert
  «open» := Store.open
  openSubkey := Store.openSubkey
  view := fun _ key => .ok key
  release := fun store _ => store.release

end Keeper

/-- A bench as a desk. -/
def Bench.desk (bench : Bench) : Desk Store Handle := ⟨bench.store, bench.slots⟩

namespace Keeper

theorem vacate_byValue (bench : Bench) (slot : String) :
    byValue.vacate bench.desk slot = (bench.vacate slot).desk := by
  rw [vacate, Bench.vacate, Bench.desk]
  cases bench.slots.lookup slot <;> rfl

theorem occupy_byValue (bench : Bench) (slot : String) (result : Except Error (Handle × Store)) :
    byValue.occupy bench.desk slot result =
      ((bench.occupy slot result).1, (bench.occupy slot result).2.desk) := by
  cases result with
  | error e => rfl
  | ok found =>
    have h := vacate_byValue { bench with store := found.2 } slot
    rw [Bench.desk] at h
    simp only [occupy, Bench.occupy, Bench.desk, h]

theorem consult_byValue (bench : Bench) (slot : String) (read : Handle → Except Error String) :
    byValue.consult bench.desk slot read =
      ((bench.consult slot read).1, (bench.consult slot read).2.desk) := by
  rw [consult, Bench.consult, Bench.desk]
  cases bench.slots.lookup slot with
  | none => rfl
  | some key =>
    simp only [byValue, Except.bind]
    cases read key <;> rfl

theorem step_byValue (bench : Bench) (operation : Step) :
    byValue.step bench.desk operation =
      ((bench.step operation).1, (bench.step operation).2.desk) := by
  cases operation with
  | insert hive path name value => rfl
  | «open» slot hive path => exact occupy_byValue bench slot _
  | openSubkey source slot path =>
    simp only [step, Bench.step, Bench.desk]
    cases bench.slots.lookup source with
    | none => rfl
    | some key => exact occupy_byValue bench slot _
  | getString slot name => exact consult_byValue bench slot _
  | readString slot name => exact consult_byValue bench slot _
  | release slot => exact congrArg (Prod.mk _) (vacate_byValue bench slot)

/-- **Runs with values are the runs on a bench.** -/
theorem run_byValue (bench : Bench) (steps : List Step) :
    byValue.run bench.desk steps =
      ((bench.run steps).1.map Prod.fst, (bench.run steps).2.desk) := by
  induction steps generalizing bench with
  | nil => rfl
  | cons step rest ih => simp only [run, Bench.run, step_byValue, ih, List.map_cons]

/-! ### Keepers that follow one another -/

section Follows

variable {σ η τ θ : Type}

/-- Opening a key fails in the same way, or gives a new pair of handles. -/
inductive OpensAlike (rel : σ → τ → List (η × θ) → Prop) (live : List (η × θ)) :
    Except Error (η × σ) → Except Error (θ × τ) → Prop where
  | refused (e : Error) : OpensAlike rel live (.error e) (.error e)
  | opened {key : η} {other : θ} {state : σ} {state' : τ}
      (h : rel state state' ((key, other) :: live)) :
      OpensAlike rel live (.ok (key, state)) (.ok (other, state'))

/-- From related states and pairs of live handles, each operation of one keeper is followed by the
other. -/
structure Follows (a : Keeper σ η) (b : Keeper τ θ) (rel : σ → τ → List (η × θ) → Prop) :
    Prop where
  insert {state state' live} (h : rel state state' live) (hive : Hive) (path name : String)
    (value : Value) :
    rel (a.insert state hive path name value) (b.insert state' hive path name value) live
  «open» {state state' live} (h : rel state state' live) (hive : Hive) (path : String) :
    OpensAlike rel live (a.open state hive path) (b.open state' hive path)
  openSubkey {state state' live key other} (h : rel state state' live)
    (hkey : (key, other) ∈ live) (path : String) :
    OpensAlike rel live (a.openSubkey state key path) (b.openSubkey state' other path)
  view {state state' live key other} (h : rel state state' live) (hkey : (key, other) ∈ live) :
    a.view state key = b.view state' other
  release {state state' live rest key other} (h : rel state state' live)
    (hlive : live.Perm ((key, other) :: rest)) :
    rel (a.release state key) (b.release state' other) rest

/-- The slots of both desks are filled with pairs of handles, more pairs may be waiting for a slot,
and the states are related under all of them. -/
structure Joins (rel : σ → τ → List (η × θ) → Prop) (desk : Desk σ η) (other : Desk τ θ)
    (waiting : List (η × θ)) (pairs : List (String × η × θ)) : Prop where
  nodup : (pairs.map Prod.fst).Nodup
  slots : desk.slots = pairs.map (Prod.map id Prod.fst)
  slots' : other.slots = pairs.map (Prod.map id Prod.snd)
  related : rel desk.state other.state (waiting ++ pairs.map Prod.snd)

/-- The same slots are filled on both desks, and the states and the pairs of handles are related. -/
def DesksAlike (rel : σ → τ → List (η × θ) → Prop) (desk : Desk σ η) (other : Desk τ θ) : Prop :=
  ∃ pairs, Joins rel desk other [] pairs

/-- An operation says the same on both desks and leaves desks that are alike. -/
def StepsAlike (rel : σ → τ → List (η × θ) → Prop) (a : Answer × Desk σ η)
    (b : Answer × Desk τ θ) : Prop := a.1 = b.1 ∧ DesksAlike rel a.2 b.2

end Follows

section Slots

variable {α β : Type}

theorem lookup_map_snd (f : α → β) (slots : List (String × α)) (slot : String) :
    (slots.map (Prod.map id f)).lookup slot = (slots.lookup slot).map f := by
  induction slots with
  | nil => rfl
  | cons entry rest ih =>
    rw [List.map_cons, Sorted.lookup_cons_eq_if, Sorted.lookup_cons_eq_if, ih,
      apply_ite (Option.map f)]
    rfl

theorem filter_map_snd (f : α → β) (slots : List (String × α)) (p : String → Bool) :
    (slots.map (Prod.map id f)).filter (fun entry => p entry.1) =
      (slots.filter fun entry => p entry.1).map (Prod.map id f) := by
  rw [List.filter_map]
  rfl

/-- Nothing is left out for a slot that is empty. -/
theorem filter_ne_of_lookup {slots : List (String × α)} {slot : String}
    (h : slots.lookup slot = none) : (slots.filter fun entry => entry.1 != slot) = slots := by
  refine List.filter_eq_self.2 fun entry hentry => ?_
  rw [bne_comm]
  exact List.lookup_eq_none_iff.1 h entry hentry

/-- A slot that is filled, and the others. -/
theorem perm_of_lookup {slots : List (String × α)} {slot : String} {value : α}
    (hnodup : (slots.map Prod.fst).Nodup) (h : slots.lookup slot = some value) :
    slots.Perm ((slot, value) :: slots.filter fun entry => entry.1 != slot) := by
  induction slots with
  | nil => cases h
  | cons entry rest ih =>
    obtain ⟨hhead, hrest⟩ := List.nodup_cons.1 hnodup
    rw [Sorted.lookup_cons_eq_if] at h
    rw [List.filter_cons]
    split at h
    · rename_i hslot
      subst hslot
      obtain rfl : entry.2 = value := Option.some.inj h
      -- The slot is filled once, so nothing else is left out.
      have hothers : (rest.filter fun other => other.1 != entry.1) = rest := by
        refine List.filter_eq_self.2 fun other hother => ?_
        rw [bne_iff_ne]
        rintro heq
        exact hhead (heq ▸ List.mem_map_of_mem hother)
      simp [hothers]
    · rename_i hslot
      rw [if_pos (bne_iff_ne.2 (Ne.symm hslot))]
      exact ((ih hrest h).cons entry).trans (.swap _ _ _)

end Slots

namespace Joins

variable {σ η τ θ : Type} {a : Keeper σ η} {b : Keeper τ θ}
  {rel : σ → τ → List (η × θ) → Prop} {desk : Desk σ η} {other : Desk τ θ}
  {waiting : List (η × θ)} {pairs : List (String × η × θ)}

/-- A slot is empty on both desks, or it has a pair of live handles. -/
theorem lookup_cases (h : Joins rel desk other waiting pairs) (slot : String) :
    (pairs.lookup slot = none ∧ desk.slots.lookup slot = none ∧
        other.slots.lookup slot = none) ∨
      ∃ pair, pairs.lookup slot = some pair ∧ pair ∈ pairs.map Prod.snd ∧
        desk.slots.lookup slot = some pair.1 ∧ other.slots.lookup slot = some pair.2 := by
  rw [h.slots, h.slots', lookup_map_snd, lookup_map_snd]
  cases hslot : pairs.lookup slot with
  | none => exact .inl ⟨rfl, rfl, rfl⟩
  | some pair =>
    exact .inr ⟨pair, rfl, List.mem_map_of_mem (Sorted.mem_of_lookup hslot), rfl, rfl⟩

/-- Vacating a slot drops its pair, also if other pairs are waiting. -/
theorem vacate (h : Joins rel desk other waiting pairs) (hfollows : Follows a b rel)
    (slot : String) :
    Joins rel (a.vacate desk slot) (b.vacate other slot) waiting
      (pairs.filter fun entry => entry.1 != slot) := by
  rcases h.lookup_cases slot with ⟨hpairs, hdesk, hother⟩ | ⟨pair, hpairs, -, hdesk, hother⟩
  · rw [Keeper.vacate, Keeper.vacate, hdesk, hother, filter_ne_of_lookup hpairs]
    exact h
  · rw [Keeper.vacate, Keeper.vacate, hdesk, hother]
    refine ⟨h.nodup.sublist (List.filter_sublist.map Prod.fst), ?_, ?_, ?_⟩
    · simp only [h.slots, filter_map_snd Prod.fst pairs (· != slot)]
    · simp only [h.slots', filter_map_snd Prod.snd pairs (· != slot)]
    · -- In some order of the live handles, the one that is released comes first.
      have hperm := (perm_of_lookup h.nodup hpairs).map Prod.snd
      exact hfollows.release h.related ((hperm.append_left waiting).trans List.perm_middle)

end Joins

namespace Follows

variable {σ η τ θ : Type} {a : Keeper σ η} {b : Keeper τ θ}
  {rel : σ → τ → List (η × θ) → Prop} {desk : Desk σ η} {other : Desk τ θ}
  {pairs : List (String × η × θ)}

theorem occupy (h : Follows a b rel) (hjoins : Joins rel desk other [] pairs) (slot : String)
    {result : Except Error (η × σ)} {result' : Except Error (θ × τ)}
    (hresult : OpensAlike rel (pairs.map Prod.snd) result result') :
    StepsAlike rel (a.occupy desk slot result) (b.occupy other slot result') := by
  cases hresult with
  | refused e => exact ⟨rfl, pairs, hjoins⟩
  | @opened key key' state state' hopened =>
    -- The new pair waits until the slot is vacated.
    have hwaiting : Joins rel ⟨state, desk.slots⟩ ⟨state', other.slots⟩ [(key, key')] pairs :=
      ⟨hjoins.nodup, hjoins.slots, hjoins.slots', hopened⟩
    have hvacated := hwaiting.vacate h slot
    refine ⟨rfl, (slot, key, key') :: pairs.filter fun entry => entry.1 != slot, ?_, ?_, ?_,
      hvacated.related⟩
    · exact List.nodup_cons.2 ⟨by simp, hvacated.nodup⟩
    · exact congrArg ((slot, key) :: ·) hvacated.slots
    · exact congrArg ((slot, key') :: ·) hvacated.slots'

theorem consult (h : Follows a b rel) (hjoins : Joins rel desk other [] pairs) (slot : String)
    (read : Handle → Except Error String) :
    StepsAlike rel (a.consult desk slot read) (b.consult other slot read) := by
  rw [Keeper.consult, Keeper.consult]
  rcases hjoins.lookup_cases slot with ⟨-, hdesk, hother⟩ | ⟨pair, -, hmem, hdesk, hother⟩
  · rw [hdesk, hother]
    exact ⟨rfl, pairs, hjoins⟩
  · simp only [hdesk, hother, h.view hjoins.related hmem]
    cases (b.view other.state pair.2).bind read <;> exact ⟨rfl, pairs, hjoins⟩

/-- **One operation** says the same with both keepers. -/
theorem step (h : Follows a b rel) (hdesks : DesksAlike rel desk other) (operation : Step) :
    StepsAlike rel (a.step desk operation) (b.step other operation) := by
  obtain ⟨pairs, hjoins⟩ := hdesks
  cases operation with
  | insert hive path name value =>
    exact ⟨rfl, pairs, hjoins.nodup, hjoins.slots, hjoins.slots',
      h.insert hjoins.related hive path name value⟩
  | «open» slot hive path => exact h.occupy hjoins slot (h.open hjoins.related hive path)
  | openSubkey source slot path =>
    simp only [Keeper.step]
    rcases hjoins.lookup_cases source with ⟨-, hdesk, hother⟩ | ⟨pair, -, hmem, hdesk, hother⟩
    · rw [hdesk, hother]
      exact ⟨rfl, pairs, hjoins⟩
    · rw [hdesk, hother]
      exact h.occupy hjoins slot (h.openSubkey hjoins.related hmem path)
  | getString slot name => exact h.consult hjoins slot _
  | readString slot name => exact h.consult hjoins slot _
  | release slot =>
    refine ⟨?_, _, hjoins.vacate h slot⟩
    rcases hjoins.lookup_cases slot with ⟨-, hdesk, hother⟩ | ⟨pair, -, -, hdesk, hother⟩ <;>
      simp only [Keeper.step, hdesk, hother, Option.isSome]

/-- **A row of operations** says the same with both keepers. -/
theorem run (h : Follows a b rel) (hdesks : DesksAlike rel desk other) (steps : List Step) :
    (a.run desk steps).1 = (b.run other steps).1 ∧
      DesksAlike rel (a.run desk steps).2 (b.run other steps).2 := by
  induction steps generalizing desk other with
  | nil => exact ⟨rfl, hdesks⟩
  | cons operation rest ih =>
    obtain ⟨hanswer, hnext⟩ := h.step hdesks operation
    obtain ⟨hanswers, hlast⟩ := ih hnext
    simp only [Keeper.run, hanswer, hanswers]
    exact ⟨trivial, hlast⟩

end Follows

end Keeper

end RuntimeLauncher.Store
