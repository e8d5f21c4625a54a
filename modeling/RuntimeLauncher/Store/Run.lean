import RuntimeLauncher.Store.Basic

/-!
# Runs of store operations

A run is a row of operations on one store. The handles are kept in named slots, and every operation
gives an answer.

## Main Definitions

* `Store.Step` — one operation
* `Store.Answer` — what an operation says
* `Store.Bench` — a store with its slots, and `Store.Bench.step`, which works off one operation

## Design Notes

An operation that opens a key fills a slot. The new handle is opened before the slot's old one is
released, and if opening fails the slot keeps what it had.
-/

namespace RuntimeLauncher.Store

/-- One operation on a store. Slots are named. -/
inductive Step where
  | insert (hive : Hive) (path name : String) (value : Value)
  | «open» (slot : String) (hive : Hive) (path : String)
  | openSubkey (source slot : String) (path : String)
  | getString (slot name : String)
  | readString (slot name : String)
  | release (slot : String)

/-- What an operation says. -/
inductive Answer where
  | done
  | text (value : String)
  | released (wasOpen : Bool)
  | refused (e : Error)
  /-- The operation needs a handle and its slot has none. -/
  | noHandle

/-- A store with the handles that are open in named slots. -/
structure Bench where
  store : Store
  slots : List (String × Handle)

namespace Bench

/-- A store that nobody has opened a key of. -/
def ofStore (store : Store) : Bench := ⟨store, []⟩

/-- Releases the handle of a slot. -/
def vacate (bench : Bench) (slot : String) : Bench :=
  match bench.slots.lookup slot with
  | none => bench
  | some _ => ⟨bench.store.release, bench.slots.filter fun entry => entry.1 != slot⟩

/-- Puts the result of opening a key into a slot. -/
def occupy (bench : Bench) (slot : String) (result : Except Error (Handle × Store)) :
    Answer × Bench :=
  match result with
  | .error e => (.refused e, bench)
  | .ok (key, store) =>
    let bench := { bench with store }.vacate slot
    (.done, { bench with slots := (slot, key) :: bench.slots })

/-- Reads through the handle of a slot. -/
def consult (bench : Bench) (slot : String) (read : Handle → Except Error String) :
    Answer × Bench :=
  match bench.slots.lookup slot with
  | none => (.noHandle, bench)
  | some key =>
    match read key with
    | .ok text => (.text text, bench)
    | .error e => (.refused e, bench)

/-- Works off one operation. -/
def step (bench : Bench) : Step → Answer × Bench
  | .insert hive path name value =>
    (.done, { bench with store := bench.store.insert hive path name value })
  | .open slot hive path => bench.occupy slot (bench.store.open hive path)
  | .openSubkey source slot path =>
    match bench.slots.lookup source with
    | none => (.noHandle, bench)
    | some key => bench.occupy slot (bench.store.openSubkey key path)
  | .getString slot name => bench.consult slot fun key => key.getString name
  | .readString slot name => bench.consult slot fun key => key.readString name
  | .release slot => (.released (bench.slots.lookup slot).isSome, bench.vacate slot)

/-- Works off a row of operations. Each answer comes with the count of open handles after it. -/
def run (bench : Bench) : List Step → List (Answer × Nat) × Bench
  | [] => ([], bench)
  | step :: rest =>
    let (answer, bench) := bench.step step
    let (answers, last) := bench.run rest
    ((answer, bench.store.openHandles) :: answers, last)

/-- Releases the handles of all slots. -/
def vacateAll (bench : Bench) : Bench :=
  ⟨bench.slots.foldl (fun store _ => store.release) bench.store, []⟩

end Bench

end RuntimeLauncher.Store
