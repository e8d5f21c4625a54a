import RuntimeLauncher.Proofs.Log
import RuntimeLauncher.Proofs.Store.History
import RuntimeLauncher.Store.Session

/-!
# Sessions leave the store as it was

A session opens keys for the length of a computation. Whatever happens in between, every handle is
taken back, so the store after the session is the store before it.

## Main Definitions

* `Session.Answers` — what a session finds on a store, which it leaves as it was
* `Session.Restores` — a session has an answer on every store

## Main Statements

* `Answers.bind`, `Answers.withKey`, `Answers.withKey_of_error` — how answers come about
* `restores_withKey` — opening a key restores the store if what is done with the key does
* `Answers.unique` — a store determines the answer

## Design Notes

An answer does not depend on the log, since sessions only add to it. A session that has an answer
on every store can be run any number of times and says the same each time.
-/

namespace RuntimeLauncher

/-- Taking back the handle that was handed out undoes the opening. -/
theorem Store.release_of_grant {store opened : Store} {cells : Cells} {hive : Hive}
    {path : String} {key : Handle} (h : store.grant cells hive path = .ok (key, opened)) :
    opened.release = store := by
  obtain ⟨-, -, rfl⟩ := grant_eq_ok_iff.1 h
  rfl

namespace Session

variable {α β : Type} {store : Store}

/-- The session finds `a` on the store and leaves the store as it was, whatever stands in the
log. -/
def Answers (session : Session α) (store : Store) (a : α) : Prop :=
  ∃ events, (session.run store).Yields (a, store) events

theorem Answers.pure (a : α) : Answers (pure a : Session α) store a :=
  ⟨[], Logged.Yields.pure _⟩

theorem Answers.bind {session : Session α} {f : α → Session β} {a : α} {b : β}
    (h : session.Answers store a) (hf : (f a).Answers store b) :
    (session >>= f).Answers store b := by
  obtain ⟨events, h⟩ := h
  rw [Answers, StateT.run_bind]
  exact h.exists_bind hf

/-- Writing to the log has the answer of what is written. -/
theorem Answers.log {note : Logged α} {a : α} {events : List Log.Event}
    (h : note.Yields a events) : (Session.log note).Answers store a := by
  refine ⟨events ++ [], ?_⟩
  exact h.bind (Logged.Yields.pure (a, store))

/-- A key that is not there: the session goes on without it. -/
theorem Answers.withKey_of_error {attempt : Store → Except Store.Error (Store.Handle × Store)}
    {absent : Store.Error → Session α} {use : Store.Handle → Session α} {e : Store.Error} {a : α}
    (h : attempt store = .error e) (habsent : (absent e).Answers store a) :
    (withKey attempt absent use).Answers store a := by
  obtain ⟨events, habsent⟩ := habsent
  refine ⟨events, ?_⟩
  have hrun : (withKey attempt absent use).run store = (absent e).run store := by
    simp [withKey, h]
  rw [hrun]
  exact habsent

/-- A key that is there: it is used, and its handle is taken back. -/
theorem Answers.withKey {attempt : Store → Except Store.Error (Store.Handle × Store)}
    {absent : Store.Error → Session α} {use : Store.Handle → Session α} {key : Store.Handle}
    {opened : Store} {a : α} (h : attempt store = .ok (key, opened))
    (hrelease : opened.release = store) (huse : (use key).Answers opened a) :
    (withKey attempt absent use).Answers store a := by
  obtain ⟨events, huse⟩ := huse
  have hrun : (Session.withKey attempt absent use).run store =
      (use key).run opened >>= fun found =>
        (Pure.pure (found.1, found.2.release) : Logged (α × Store)) := by
    simp [Session.withKey, h]
  rw [Answers, hrun]
  -- What is done with the key leaves the opened store, and taking back the handle the first one.
  exact huse.exists_bind ⟨[], hrelease ▸ Logged.Yields.pure (a, opened.release)⟩

theorem Answers.unique {session : Session α} {a b : α} (ha : session.Answers store a)
    (hb : session.Answers store b) : a = b := by
  obtain ⟨events, ha⟩ := ha
  obtain ⟨later, hb⟩ := hb
  exact (Prod.mk.inj (ha.unique hb).1).1

/-! ### Sessions that restore the store -/

/-- The session has an answer on every store, and leaves the store as it was. -/
def Restores (session : Session α) : Prop := ∀ store, ∃ a, session.Answers store a

theorem restores_pure (a : α) : Restores (pure a : Session α) := fun _ => ⟨a, .pure a⟩

theorem restores_bind {session : Session α} {f : α → Session β} (h : session.Restores)
    (hf : ∀ a, (f a).Restores) : (session >>= f).Restores := by
  intro store
  obtain ⟨a, ha⟩ := h store
  obtain ⟨b, hb⟩ := hf a store
  exact ⟨b, ha.bind hb⟩

theorem restores_log {note : Logged α} {a : α} {events : List Log.Event}
    (h : note.Yields a events) : (Session.log note).Restores := fun _ => ⟨a, .log h⟩

/-- **Opening a key restores the store if what is done with the key does.** -/
theorem restores_withKey {attempt : Store → Except Store.Error (Store.Handle × Store)}
    {absent : Store.Error → Session α} {use : Store.Handle → Session α}
    (hrelease : ∀ {store key opened}, attempt store = .ok (key, opened) → opened.release = store)
    (habsent : ∀ e, (absent e).Restores) (huse : ∀ key, (use key).Restores) :
    (withKey attempt absent use).Restores := by
  intro store
  cases h : attempt store with
  | error e =>
    obtain ⟨a, ha⟩ := habsent e store
    exact ⟨a, .withKey_of_error h ha⟩
  | ok found =>
    obtain ⟨key, opened⟩ := found
    obtain ⟨a, ha⟩ := huse key opened
    exact ⟨a, .withKey h (hrelease h) ha⟩

end Session

end RuntimeLauncher
