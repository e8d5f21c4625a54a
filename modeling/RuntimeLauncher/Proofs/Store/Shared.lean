import Mathlib.Logic.Function.Basic
import RuntimeLauncher.Proofs.Store.Keeper

/-!
# Stores that share their cells in memory

A store and its handles need not hold the cells themselves. Here they own shares of blocks of memory
in which the cells stand. A handle shares the block of the store or of the handle that it was opened
from, so that nothing is copied. A value is put into the store's block in place if nobody shares
that block, and into a copy of it otherwise. The count of open handles stands in memory as well, and
every owner knows where.

## Main Definitions

* `Memory` — blocks of cells, the numbers of their owners, and counters
* `Memory.claim` — makes a block an owner's own, by a copy if others share it
* `Shared`, `Lease`, `Keeper.shared` — a store and a handle in memory, and the operations on them
* `Memory.Owned` — the numbers of owners are right
* `Mirrors` — a store in memory with its handles looks like a store with handles as values

## Main Statements

* `Owned.claim` — claiming a block changes nothing that another owner sees
* `shared_follows_byValue` — shared cells cannot be told from cells as values
* `ran_alike` — a run in memory says what a run on a bench says

## Design Notes

An owner that writes in place is alone, since the number of owners of a block is the number of
shares in it. So no handle ever sees a later value. A copy stands at an address that was never used,
and so nobody else has a share in it either.
-/

namespace RuntimeLauncher.Store

/-- Memory with blocks of cells and with counters, each at an address. -/
structure Memory where
  cells : Nat → Cells
  /-- How many owners share a block. -/
  owners : Nat → Nat
  /-- The address of the next new block. -/
  fresh : Nat
  counters : Nat → Nat

/-- What an owner holds: the addresses of its cells and of the count of open handles. -/
structure Share where
  block : Nat
  counter : Nat

namespace Memory

/-- Makes a block an owner's own. It is copied if others share it, and stays theirs. -/
def claim (memory : Memory) (block : Nat) : Nat × Memory :=
  if memory.owners block = 1 then (block, memory)
  else
    (memory.fresh,
      { memory with
        cells := Function.update memory.cells memory.fresh (memory.cells block)
        owners := Function.update
          (Function.update memory.owners block (memory.owners block - 1)) memory.fresh 1
        fresh := memory.fresh + 1 })

/-- Changes the cells of a block in place. -/
def write (memory : Memory) (block : Nat) (cells : Cells) : Memory :=
  { memory with cells := Function.update memory.cells block cells }

/-- Hands out a share, and counts a handle more. -/
def lend (memory : Memory) (share : Share) : Memory :=
  { memory with
    owners := Function.update memory.owners share.block (memory.owners share.block + 1)
    counters := Function.update memory.counters share.counter (memory.counters share.counter + 1) }

/-- Takes a share back, and counts a handle less. The count stops at zero. -/
def redeem (memory : Memory) (share : Share) : Memory :=
  { memory with
    owners := Function.update memory.owners share.block (memory.owners share.block - 1)
    counters := Function.update memory.counters share.counter (memory.counters share.counter - 1) }

end Memory

/-- A store in memory. -/
structure Shared where
  memory : Memory
  /-- What the store itself owns. -/
  own : Share

/-- A handle of a store in memory. -/
structure Lease where
  share : Share
  hive : Hive
  /-- The normal spelling of the key's path. -/
  path : String

namespace Shared

/-- The store without values and handles. -/
def empty : Shared where
  memory :=
    { cells := fun _ => []
      owners := Function.update (fun _ => 0) 0 1
      fresh := 1
      counters := fun _ => 0 }
  own := ⟨0, 0⟩

/-- How many handles are open. -/
def openHandles (shared : Shared) : Nat := shared.memory.counters shared.own.counter

/-- Puts a value into the store, in place if nobody shares its cells. -/
def insert (shared : Shared) (hive : Hive) (path name : String) (value : Value) : Shared :=
  let (block, memory) := shared.memory.claim shared.own.block
  ⟨memory.write block ((memory.cells block).put (.of hive path name) value),
    { shared.own with block }⟩

/-- Hands out a handle for a key that is seen from a share, if the key is there. -/
def grant (shared : Shared) (share : Share) (hive : Hive) (path : String) :
    Except Error (Lease × Shared) :=
  if (shared.memory.cells share.block).hasKey hive path then
    .ok (⟨share, hive, path⟩, { shared with memory := shared.memory.lend share })
  else .error (.keyNotFound (hive.title ++ "\\" ++ path))

/-- What one reads from through a handle. -/
def view (shared : Shared) (lease : Lease) : Handle :=
  ⟨shared.memory.cells lease.share.block, lease.hive, lease.path⟩

end Shared

/-- The store and its handles in memory. -/
def Keeper.shared : Keeper Shared Lease where
  insert := Shared.insert
  «open» := fun shared hive path => shared.grant shared.own hive (KeyPath.normal path)
  openSubkey := fun shared lease path =>
    shared.grant lease.share lease.hive (KeyPath.below lease.path path)
  view := fun shared lease => .ok (shared.view lease)
  release := fun shared lease => { shared with memory := shared.memory.redeem lease.share }

/-! ### Owners -/

namespace Memory

/-- Each block has as many owners as there are shares in it, and no share is in a block that is
still to come. -/
structure Owned (memory : Memory) (blocks : List Nat) : Prop where
  owners : ∀ block, memory.owners block = blocks.count block
  used : ∀ block ∈ blocks, block < memory.fresh

namespace Owned

variable {memory : Memory} {blocks others : List Nat} {block : Nat} {share : Share}

theorem perm (h : memory.Owned blocks) (hperm : blocks.Perm others) : memory.Owned others :=
  ⟨fun block => (h.owners block).trans (hperm.count_eq block),
    fun block hblock => h.used block (hperm.mem_iff.2 hblock)⟩

theorem write (h : memory.Owned blocks) (cells : Cells) : (memory.write block cells).Owned blocks :=
  ⟨h.owners, h.used⟩

theorem lend (h : memory.Owned blocks) (hshare : share.block ∈ blocks) :
    (memory.lend share).Owned (share.block :: blocks) := by
  refine ⟨fun block => ?_, List.forall_mem_cons.2 ⟨h.used _ hshare, h.used⟩⟩
  rw [Memory.lend, List.count_cons, ← h.owners]
  by_cases hblock : block = share.block
  · simp [hblock]
  · simp [hblock, Ne.symm hblock]

theorem redeem (h : memory.Owned (share.block :: blocks)) :
    (memory.redeem share).Owned blocks := by
  refine ⟨fun block => ?_, (List.forall_mem_cons.1 h.used).2⟩
  have hcount := h.owners block
  by_cases hblock : block = share.block
  · subst hblock
    simp [Memory.redeem, hcount]
  · simpa [Memory.redeem, hblock, Ne.symm hblock, List.count_cons] using hcount

/-- **Claiming a block changes nothing that another owner sees.** The block that is claimed holds
the same cells as before, and the other owners have no share in it. -/
theorem claim (h : memory.Owned (block :: others)) :
    ((memory.claim block).2.Owned ((memory.claim block).1 :: others)) ∧
      (memory.claim block).1 ∉ others ∧
      (memory.claim block).2.cells (memory.claim block).1 = memory.cells block ∧
      (∀ other ∈ others, (memory.claim block).2.cells other = memory.cells other) ∧
      (memory.claim block).2.counters = memory.counters := by
  obtain ⟨hblock, hothers⟩ := List.forall_mem_cons.1 h.used
  rw [Memory.claim]
  split
  · -- One owner is one share, and that is the owner's own.
    rename_i halone
    refine ⟨h, ?_, rfl, fun _ _ => rfl, rfl⟩
    rw [h.owners, List.count_cons_self] at halone
    exact List.count_eq_zero.1 (Nat.succ.inj halone)
  · have hfresh : memory.fresh ∉ others := fun hmem => Nat.lt_irrefl _ (hothers _ hmem)
    refine ⟨⟨fun other => ?_, ?_⟩, hfresh, by simp, fun other hother => ?_, rfl⟩
    · have hcount := h.owners other
      by_cases hnew : other = memory.fresh
      · subst hnew
        simp [List.count_eq_zero.2 hfresh]
      · by_cases hold : other = block
        · subst hold
          simp [hnew, Ne.symm hnew, hcount]
        · simpa [hnew, hold, Ne.symm hnew, Ne.symm hold, List.count_cons] using hcount
    · exact List.forall_mem_cons.2 ⟨Nat.lt_succ_self _, fun other hother =>
        Nat.lt_succ_of_lt (hothers other hother)⟩
    · have hne : other ≠ memory.fresh := Nat.ne_of_lt (hothers other hother)
      simp [hne]

end Owned

end Memory

/-! ### Shared cells and cells as values -/

/-- The blocks in which a store and its live handles have shares. -/
def Shared.blocks (shared : Shared) (live : List (Lease × Handle)) : List Nat :=
  shared.own.block :: live.map fun pair => pair.1.share.block

/-- The store in memory looks like the store with its values, and so do their live handles. Each
count of open handles is the number of live handles, and all of them know the one counter. -/
structure Mirrors (shared : Shared) (store : Store) (live : List (Lease × Handle)) : Prop where
  cells : shared.memory.cells shared.own.block = store.cells
  openHandles : shared.openHandles = live.length
  openHandles' : store.openHandles = live.length
  counter : ∀ pair ∈ live, pair.1.share.counter = shared.own.counter
  views : ∀ pair ∈ live, shared.view pair.1 = pair.2
  owned : shared.memory.Owned (shared.blocks live)

namespace Mirrors

variable {shared : Shared} {store : Store} {live rest : List (Lease × Handle)} {lease : Lease}
  {key : Handle}

theorem empty : Mirrors Shared.empty Store.empty [] where
  cells := rfl
  openHandles := rfl
  openHandles' := rfl
  counter := nofun
  views := nofun
  owned := by
    refine ⟨fun block => ?_, ?_⟩
    · by_cases hblock : block = 0
      · simp [Shared.empty, Shared.blocks, hblock]
      · simp [Shared.empty, Shared.blocks, hblock, Ne.symm hblock]
    · simp [Shared.empty, Shared.blocks]

theorem insert (h : Mirrors shared store live) (hive : Hive) (path name : String)
    (value : Value) :
    Mirrors (shared.insert hive path name value) (store.insert hive path name value) live := by
  obtain ⟨howned, halone, hblock, hothers, hcounters⟩ := h.owned.claim
  refine ⟨?_, ?_, h.openHandles', h.counter, fun pair hpair => ?_, howned.write _⟩
  · simp [Shared.insert, Memory.write, Store.insert, hblock, h.cells]
  · rw [← h.openHandles]
    exact congrFun hcounters _
  · -- A handle has its share in another block, whose cells stay.
    have hmem : pair.1.share.block ∈ live.map fun pair => pair.1.share.block :=
      List.mem_map_of_mem hpair
    have hne : pair.1.share.block ≠ (shared.memory.claim shared.own.block).1 :=
      fun heq => halone (heq ▸ hmem)
    rw [← h.views pair hpair]
    simp [Shared.insert, Shared.view, Memory.write, hne, hothers _ hmem]

/-- Handing out a handle for a share that someone has. -/
theorem grant (h : Mirrors shared store live) {share : Share} (hive : Hive) (path : String)
    (hcounter : share.counter = shared.own.counter) (hshare : share.block ∈ shared.blocks live) :
    Keeper.OpensAlike Mirrors live (shared.grant share hive path)
      (store.grant (shared.memory.cells share.block) hive path) := by
  rw [Shared.grant, Store.grant]
  split
  · refine .opened ⟨h.cells, ?_, ?_, ?_, ?_, ?_⟩
    · simpa [Shared.openHandles, Memory.lend, hcounter] using h.openHandles
    · simpa using h.openHandles'
    · exact List.forall_mem_cons.2 ⟨hcounter, h.counter⟩
    · exact List.forall_mem_cons.2 ⟨rfl, h.views⟩
    · exact (h.owned.lend hshare).perm (.swap _ _ _)
  · exact .refused _

theorem release (h : Mirrors shared store live) (hlive : live.Perm ((lease, key) :: rest)) :
    Mirrors (Keeper.shared.release shared lease) store.release rest := by
  have hlength : live.length = rest.length + 1 := hlive.length_eq
  have hin (pair : Lease × Handle) (hpair : pair ∈ rest) : pair ∈ live :=
    hlive.mem_iff.2 (List.mem_cons_of_mem _ hpair)
  have hcounter : lease.share.counter = shared.own.counter :=
    h.counter (lease, key) (hlive.mem_iff.2 List.mem_cons_self)
  refine ⟨h.cells, ?_, ?_, fun pair hpair => h.counter pair (hin pair hpair),
    fun pair hpair => h.views pair (hin pair hpair), ?_⟩
  · have hopen := h.openHandles
    rw [Shared.openHandles] at hopen
    simp [Keeper.shared, Shared.openHandles, Memory.redeem, hcounter, hopen, hlength]
  · simp [Store.release, h.openHandles', hlength]
  · have hblocks := (hlive.map fun pair => pair.1.share.block).cons shared.own.block
    exact (h.owned.perm (hblocks.trans (.swap _ _ _))).redeem

end Mirrors

/-- **Shared cells cannot be told from cells as values.** -/
theorem shared_follows_byValue : Keeper.shared.Follows Keeper.byValue Mirrors where
  insert h := h.insert
  «open» h hive path := by
    have hopen := h.grant hive (KeyPath.normal path) rfl List.mem_cons_self
    rw [h.cells] at hopen
    exact hopen
  openSubkey {shared _ _ lease _} h hkey path := by
    obtain rfl : shared.view lease = _ := h.views _ hkey
    have hmem : lease.share.block ∈ _ :=
      List.mem_map_of_mem (f := fun pair : Lease × Handle => pair.1.share.block) hkey
    exact h.grant lease.hive (KeyPath.below lease.path path) (h.counter _ hkey)
      (List.mem_cons_of_mem _ hmem)
  view h hkey := congrArg Except.ok (h.views _ hkey)
  release h hlive := h.release hlive

/-- A run from a new store, with its cells in memory. -/
def ran (steps : List Step) : List Answer × Desk Shared Lease :=
  Keeper.shared.run ⟨Shared.empty, []⟩ steps

/-- A run in memory and one on a bench say the same, and have the same slots filled. -/
theorem ran_alike (steps : List Step) :
    (ran steps).1 = ((Bench.ofStore .empty).run steps).1.map Prod.fst ∧
      Keeper.DesksAlike Mirrors (ran steps).2 ((Bench.ofStore .empty).run steps).2.desk := by
  have hrun := Keeper.run_byValue (Bench.ofStore .empty) steps
  have hstart : Keeper.DesksAlike Mirrors ⟨Shared.empty, []⟩ (Bench.ofStore .empty).desk :=
    ⟨[], List.nodup_nil, rfl, rfl, Mirrors.empty⟩
  have hfollows := shared_follows_byValue.run hstart steps
  rwa [hrun] at hfollows

end RuntimeLauncher.Store
