import Mathlib.Data.List.Infix
import RuntimeLauncher.Proofs.Store.Shared

/-!
# The account of open handles

A store says how many handles are open. Here that count is checked against the row of operations and
their answers, from which one can tell which handles were created and which of them were dropped
since.

## Main Definitions

* `liveSlots` — the handles that were created and not yet dropped, told from the answers alone
* `created`, `dropped` — how many handles one operation creates and drops
* `Keeper.filled`, `Keeper.kept` — the slots that have a handle, and those that keep theirs

## Main Statements

* `filled_run` — the slots that are filled after a run are those of the live handles
* `openHandles_accounts_for_live` — the count is that of the live handles, after every operation

## Design Notes

The subtraction that takes a handle from the count stops at zero, which could hide an account that
is wrong. So one operation's change is stated as a sum, where nothing stops.
-/

namespace RuntimeLauncher.Store

/-! ### Live handles, told from the answers -/

/-- The slot in which an operation puts a new handle. -/
def fills? : Step × Answer → Option String
  | (.open slot _ _, .done) => some slot
  | (.openSubkey _ slot _, .done) => some slot
  | _ => none

/-- The slot whose handle an operation drops: the one that it releases, or puts a new handle in. -/
def clears? : Step × Answer → Option String
  | (.release slot, _) => some slot
  | said => fills? said

/-- The slots of the handles that were created and not yet dropped, in the order of their creation.
A handle that an operation creates is dropped by the first later one that clears its slot. -/
def liveSlots : List (Step × Answer) → List String
  | [] => []
  | said :: later =>
    ((fills? said).filter fun slot => later.all (clears? · != some slot)).toList ++ liveSlots later

/-- How many handles an operation creates. -/
def created (said : Step × Answer) : Nat := (fills? said).toList.length

/-- How many of the live handles an operation drops. -/
def dropped (said : Step × Answer) (live : List String) : Nat :=
  live.countP fun slot => clears? said == some slot

/-- A slot that gets a new handle loses its old one. -/
theorem clears?_of_fills? {said : Step × Answer} {slot : String} (h : fills? said = some slot) :
    clears? said = some slot := by
  obtain ⟨operation, answer⟩ := said
  cases operation with
  | release => cases h
  | insert | «open» | openSubkey | getString | readString => exact h

/-- One operation more drops the handle whose slot it clears, and adds its own. -/
theorem liveSlots_concat (before : List (Step × Answer)) (said : Step × Answer) :
    liveSlots (before ++ [said]) =
      (liveSlots before).filter (fun slot => clears? said != some slot) ++
        (fills? said).toList := by
  induction before with
  | nil =>
    simp only [liveSlots, List.nil_append, List.all_nil, List.filter_nil, List.append_nil]
    cases fills? said <;> rfl
  | cons first rest ih =>
    rw [List.cons_append, liveSlots, ih, liveSlots, List.filter_append, List.append_assoc]
    congr 1
    cases fills? first with
    | none => rfl
    | some slot =>
      cases hlater : rest.all (clears? · != some slot) <;>
        cases hlast : clears? said != some slot <;> simp [Option.filter, hlater, hlast]

/-- No slot has two live handles. -/
theorem nodup_liveSlots (trace : List (Step × Answer)) : (liveSlots trace).Nodup := by
  induction trace using List.reverseRecOn with
  | nil => exact List.nodup_nil
  | append_singleton before said ih =>
    rw [liveSlots_concat]
    refine (ih.filter _).append ?_ fun slot hold hnew => ?_
    · cases fills? said <;> simp
    · have hclears := clears?_of_fills? (Option.mem_toList.1 hnew)
      simp [hclears] at hold

/-- Releasing a slot drops its handle and no other. -/
theorem dropped_release {live : List String} {slot : String} (hnodup : live.Nodup)
    (h : slot ∈ live) (answer : Answer) : dropped (.release slot, answer) live = 1 := by
  have hcount : live.countP (· == slot) = 1 := List.count_eq_one_of_mem hnodup h
  rw [← hcount, dropped]
  refine List.countP_congr fun other _ => ?_
  rw [beq_iff_eq, beq_iff_eq]
  exact Option.some_inj.trans eq_comm

/-- **What one operation does to the account.** -/
theorem length_liveSlots_concat (before : List (Step × Answer)) (said : Step × Answer) :
    (liveSlots (before ++ [said])).length + dropped said (liveSlots before) =
      (liveSlots before).length + created said := by
  have hsplit : (liveSlots before).length =
      ((liveSlots before).filter fun slot => clears? said == some slot).length +
        ((liveSlots before).filter fun slot => clears? said != some slot).length :=
    List.length_eq_length_filter_add _
  rw [liveSlots_concat, List.length_append, dropped, List.countP_eq_length_filter, created, hsplit]
  omega

namespace Keeper

section Live

variable {σ η : Type} (keeper : Keeper σ η) (desk : Desk σ η)

/-- The names of the slots that are filled. -/
def filled (desk : Desk σ η) : List String := desk.slots.map Prod.fst

/-- The names that are left by an operation that clears a slot, or none. -/
def kept (desk : Desk σ η) (cleared : Option String) : List String :=
  (filled desk).filter fun slot => cleared != some slot

theorem kept_none : kept desk none = filled desk := List.filter_eq_self.2 fun _ _ => rfl

theorem kept_some (slot : String) :
    kept desk (some slot) = (desk.slots.filter fun entry => entry.1 != slot).map Prod.fst := by
  rw [kept, filled, List.filter_map]
  congr 2
  funext entry
  simp [bne, eq_comm]

theorem filled_vacate (slot : String) :
    filled (keeper.vacate desk slot) = kept desk (some slot) := by
  rw [kept_some, filled, vacate]
  cases h : desk.slots.lookup slot with
  | none => exact congrArg (List.map Prod.fst) (filter_ne_of_lookup h).symm
  | some key => rfl

/-- Opening a key is refused and changes no slot, or it fills its slot anew. -/
theorem filled_occupy (slot : String) (result : Except Error (η × σ)) :
    (∃ e, (keeper.occupy desk slot result).1 = .refused e ∧
        filled (keeper.occupy desk slot result).2 = filled desk) ∨
      (keeper.occupy desk slot result).1 = .done ∧
        filled (keeper.occupy desk slot result).2 = slot :: kept desk (some slot) := by
  cases result with
  | error e => exact .inl ⟨e, rfl, rfl⟩
  | ok found =>
    exact .inr ⟨rfl, congrArg (slot :: ·) (filled_vacate keeper ⟨found.2, desk.slots⟩ slot)⟩

/-- An operation that opens a key changes the slots as its answer tells. -/
theorem filled_of_occupy {operation : Step} {slot : String} {result : Except Error (η × σ)}
    (hdone : fills? (operation, .done) = some slot)
    (hrefused : ∀ e, fills? (operation, .refused e) = none)
    (hclears : ∀ answer, clears? (operation, answer) = fills? (operation, answer))
    {answer : Answer} (hanswer : (keeper.occupy desk slot result).1 = answer) :
    filled (keeper.occupy desk slot result).2 =
      (fills? (operation, answer)).toList ++ kept desk (clears? (operation, answer)) := by
  subst hanswer
  rw [hclears]
  rcases filled_occupy keeper desk slot result with ⟨e, hanswer, hslots⟩ | ⟨hanswer, hslots⟩
  · rw [hanswer, hslots, hrefused, kept_none]
    rfl
  · rw [hanswer, hslots, hdone]
    rfl

/-- **An operation changes the slots that are filled as its answer tells.** -/
theorem filled_step (operation : Step) {answer : Answer}
    (hanswer : (keeper.step desk operation).1 = answer) :
    filled (keeper.step desk operation).2 =
      (fills? (operation, answer)).toList ++ kept desk (clears? (operation, answer)) := by
  cases operation with
  | insert hive path name value => exact (kept_none desk).symm
  | «open» slot hive path =>
    exact filled_of_occupy keeper desk rfl (fun _ => rfl) (fun _ => rfl) hanswer
  | openSubkey source slot path =>
    rw [step] at hanswer ⊢
    split at hanswer
    · subst hanswer
      exact (kept_none desk).symm
    · exact filled_of_occupy keeper desk rfl (fun _ => rfl) (fun _ => rfl) hanswer
  | getString slot name =>
    exact (congrArg filled (keeper.consult_snd ..)).trans (kept_none desk).symm
  | readString slot name =>
    exact (congrArg filled (keeper.consult_snd ..)).trans (kept_none desk).symm
  | release slot => exact filled_vacate keeper desk slot

/-- **The slots that are filled after a run are those of the live handles.** -/
theorem filled_run (state : σ) (steps : List Step) :
    filled (keeper.run ⟨state, []⟩ steps).2 =
      (liveSlots (steps.zip (keeper.run ⟨state, []⟩ steps).1)).reverse := by
  -- Handles are added at the end of the run, so the induction starts there.
  induction steps using List.reverseRecOn with
  | nil => rfl
  | append_singleton steps operation ih =>
    rw [run_concat, List.zip_append (length_run _ _ _).symm, List.zip_cons_cons, List.zip_nil_right,
      liveSlots_concat, List.reverse_append, ← List.filter_reverse, ← ih, filled_step _ _ _ rfl,
      kept]
    cases fills? (operation, _) <;> rfl

end Live

end Keeper

/-! ### The count of open handles -/

/-- A run of a bench and one operation more. -/
theorem Bench.run_concat (bench : Bench) (steps : List Step) (next : Step) :
    bench.run (steps ++ [next]) =
      ((bench.run steps).1 ++ [(((bench.run steps).2.step next).1,
          ((bench.run steps).2.step next).2.store.openHandles)],
        ((bench.run steps).2.step next).2) := by
  induction steps generalizing bench with
  | nil => rfl
  | cons first rest ih => simp only [List.cons_append, run, ih]

/-- The operations of a run and what they said. -/
def traced (steps : List Step) : List (Step × Answer) := steps.zip (ran steps).1

theorem ran_concat (steps : List Step) (next : Step) :
    ran (steps ++ [next]) =
      ((ran steps).1 ++ [(Keeper.shared.step (ran steps).2 next).1],
        (Keeper.shared.step (ran steps).2 next).2) :=
  Keeper.run_concat ..

theorem traced_concat (steps : List Step) (next : Step) :
    traced (steps ++ [next]) =
      traced steps ++ [(next, (Keeper.shared.step (ran steps).2 next).1)] := by
  rw [traced, ran_concat]
  exact List.zip_append (Keeper.length_run ..).symm

/-- The count is that of the live handles, in memory and on a bench. -/
theorem openHandles_ran (steps : List Step) :
    (ran steps).2.state.openHandles = (liveSlots (traced steps)).length ∧
      ((Bench.ofStore .empty).run steps).2.store.openHandles =
        (liveSlots (traced steps)).length := by
  obtain ⟨pairs, hjoins⟩ := (ran_alike steps).2
  have hslots := congrArg List.length (Keeper.filled_run Keeper.shared Shared.empty steps)
  have hpairs := congrArg List.length hjoins.slots
  rw [Keeper.filled, List.length_map, List.length_reverse] at hslots
  rw [List.length_map, ran, hslots] at hpairs
  have hmirrors := hjoins.related
  rw [List.nil_append] at hmirrors
  refine ⟨hmirrors.openHandles.trans ?_, hmirrors.openHandles'.trans ?_⟩ <;>
    exact (List.length_map _).trans hpairs.symm

/-- The counts that a bench tells, one after each operation. -/
theorem counts_run (steps : List Step) :
    ((Bench.ofStore .empty).run steps).1.map Prod.snd =
      (traced steps).inits.tail.map fun part => (liveSlots part).length := by
  induction steps using List.reverseRecOn with
  | nil => rfl
  | append_singleton steps next ih =>
    have hlast := (openHandles_ran (steps ++ [next])).2
    rw [traced_concat, Bench.run_concat] at hlast
    have hne : (traced steps).inits ≠ [] := by cases traced steps <;> simp
    rw [Bench.run_concat, traced_concat, List.map_append, ih, List.inits_append,
      List.tail_append_of_ne_nil hne, List.map_append]
    exact congrArg (_ ++ [·]) hlast

/-- **The count of open handles is the number of live handles**, after every operation of every run
from a new store, and a bench tells the same counts. All handles know the counter of the store,
whichever values were put into it before or after they were opened. An operation that is refused
changes nothing, a handle that is released lowers the count by one, and no subtraction is made at
zero. -/
theorem openHandles_accounts_for_live (steps : List Step) :
    (ran steps).2.state.openHandles = (liveSlots (traced steps)).length ∧
      ((Bench.ofStore .empty).run steps).1 =
        (ran steps).1.zip
          ((traced steps).inits.tail.map fun part => (liveSlots part).length) ∧
      (∀ entry ∈ (ran steps).2.slots,
        entry.2.share.counter = (ran steps).2.state.own.counter) ∧
      ∀ next,
        let said := (next, (Keeper.shared.step (ran steps).2 next).1)
        let later := (Keeper.shared.step (ran steps).2 next).2
        later.state.openHandles + dropped said (liveSlots (traced steps)) =
            (ran steps).2.state.openHandles + created said ∧
          (∀ e, said.2 = .refused e → later = (ran steps).2) ∧
          ∀ slot ∈ liveSlots (traced steps), next = .release slot →
            later.state.openHandles + 1 = (ran steps).2.state.openHandles := by
  obtain ⟨hcount, -⟩ := openHandles_ran steps
  obtain ⟨hanswers, pairs, hjoins⟩ := ran_alike steps
  refine ⟨hcount, List.zip_of_prod hanswers.symm (counts_run steps), ?_, fun next => ?_⟩
  · rw [hjoins.slots]
    rintro _ hentry
    obtain ⟨pair, hpair, rfl⟩ := List.mem_map.1 hentry
    exact hjoins.related.counter pair.2 (List.mem_map_of_mem hpair)
  · have hsum := length_liveSlots_concat (traced steps)
      (next, (Keeper.shared.step (ran steps).2 next).1)
    obtain ⟨hlater, -⟩ := openHandles_ran (steps ++ [next])
    rw [traced_concat, ran_concat] at hlater
    rw [← hlater, ← hcount] at hsum
    refine ⟨hsum, fun e => Keeper.step_refused _ _ _ e, fun slot hslot hnext => ?_⟩
    subst hnext
    rw [dropped_release (nodup_liveSlots _) hslot] at hsum
    exact hsum

end RuntimeLauncher.Store
