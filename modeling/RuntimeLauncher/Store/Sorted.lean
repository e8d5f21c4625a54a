/-!
# Entries in the order of their keys

## Main Definitions

* `Sorted.put` — sets the value of a key in a list ordered by key
* `Sorted.ofList` — the entries of any list in the order of their keys

## Design Notes

Texts are ordered by their characters, which is also the order of their bytes in UTF-8. Where a key
occurs more than once, its last value counts.
-/

namespace RuntimeLauncher.Sorted

variable {α : Type}

/-- Sets the value of a key. -/
def put (key : String) (value : α) : List (String × α) → List (String × α)
  | [] => [(key, value)]
  | entry :: rest =>
    if key < entry.1 then (key, value) :: entry :: rest
    else if key = entry.1 then (key, value) :: rest
    else entry :: put key value rest

/-- The entries in the order of their keys, each key with its last value. -/
def ofList (entries : List (String × α)) : List (String × α) :=
  entries.foldl (fun sorted entry => put entry.1 entry.2 sorted) []

/-- The keys of a list after one is set. -/
theorem mem_keys_put {key : String} {value : α} {entries : List (String × α)} {k : String} :
    k ∈ (put key value entries).map Prod.fst ↔ k = key ∨ k ∈ entries.map Prod.fst := by
  induction entries with
  | nil => simp [put]
  | cons entry rest ih =>
    rw [put]
    split
    · simp
    · split
      · rename_i h
        simp [h]
      · simp only [List.map_cons, List.mem_cons, ih]
        exact ⟨fun h => h.elim (fun h => .inr (.inl h)) (fun h => h.imp id .inr),
          fun h => h.elim (fun h => .inr (.inl h)) (fun h => h.imp id .inr)⟩

end RuntimeLauncher.Sorted
