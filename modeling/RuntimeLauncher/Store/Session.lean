import RuntimeLauncher.Log
import RuntimeLauncher.Store.Basic

/-!
# Sessions with a store

Whoever reads the store for a purpose opens keys, reads, and leaves every key closed. A session is a
computation on a store that also writes to the log.

## Main Definitions

* `Session` — a computation on a store with a log
* `Session.withKey` — opens a key for the length of a computation

## Design Notes

A key is opened by `withKey` only, which takes the handle back whatever the computation finds. So no
session can leave a handle open, however it ends.
-/

namespace RuntimeLauncher

/-- A computation on a store with a log. -/
abbrev Session := StateT Store Logged

namespace Session

/-- Opens a key, and takes its handle back when the computation is done. -/
def withKey {α : Type} (attempt : Store → Except Store.Error (Store.Handle × Store))
    (absent : Store.Error → Session α) (use : Store.Handle → Session α) : Session α := do
  match attempt (← get) with
  | .error e => absent e
  | .ok (key, store) =>
    set store
    let result ← use key
    modify Store.release
    pure result

/-- Writes to the log. -/
def log {α : Type} (note : Logged α) : Session α := StateT.lift note

end Session

end RuntimeLauncher
