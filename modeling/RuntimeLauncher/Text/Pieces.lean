/-!
# Splitting and joining text

Paths, key paths and class paths are all lists of pieces written with a separator between them.
This module holds the two directions for lists of characters.

## Main Definitions

* `splitBy` — cuts a text at every separator and keeps the empty pieces
* `pieces` — the same without the empty pieces
* `joinWith` — writes pieces with one separator between neighbours

## Design Notes

The separator is a predicate when cutting, since a key path may use two separators, and one
character when joining. Everything works on `List Char`, where induction is direct; callers convert
at their border.
-/

namespace RuntimeLauncher.Text

/-- Cuts a text at every character that is a separator. There is always at least one piece. -/
def splitBy (isSep : Char → Bool) : List Char → List (List Char)
  | [] => [[]]
  | c :: cs =>
    if isSep c then [] :: splitBy isSep cs
    else
      match splitBy isSep cs with
      | [] => [[c]]
      | p :: ps => (c :: p) :: ps

/-- The non-empty pieces between separators. -/
def pieces (isSep : Char → Bool) (cs : List Char) : List (List Char) :=
  (splitBy isSep cs).filter (fun p => !p.isEmpty)

/-- Writes the pieces in order with one separator between neighbours. -/
def joinWith (sep : Char) : List (List Char) → List Char
  | [] => []
  | [p] => p
  | p :: q :: ps => p ++ sep :: joinWith sep (q :: ps)

/-- A text is never cut into nothing. -/
theorem splitBy_ne_nil (isSep : Char → Bool) (cs : List Char) : splitBy isSep cs ≠ [] := by
  cases cs with
  | nil => simp [splitBy]
  | cons c cs =>
    rw [splitBy]
    split
    · simp
    · split <;> simp

/-- No piece holds a separator. -/
theorem not_sep_of_mem_splitBy (isSep : Char → Bool) {cs p : List Char} {c : Char}
    (hp : p ∈ splitBy isSep cs) (hc : c ∈ p) : isSep c = false := by
  induction cs generalizing p with
  | nil => simp [splitBy] at hp; simp [hp] at hc
  | cons d ds ih =>
    rw [splitBy] at hp
    split at hp
    · rcases List.mem_cons.1 hp with rfl | hp
      · simp at hc
      · exact ih hp hc
    · rename_i hd
      split at hp
      · simp at hp
        subst hp
        simp at hc
        simp [hc, hd]
      · rename_i q qs hq
        rcases List.mem_cons.1 hp with rfl | hp
        · rcases List.mem_cons.1 hc with rfl | hc
          · simp [hd]
          · exact ih (hq ▸ List.mem_cons_self) hc
        · exact ih (hq ▸ List.mem_cons_of_mem _ hp) hc

/-- Every piece is non-empty. -/
theorem ne_nil_of_mem_pieces {isSep : Char → Bool} {cs p : List Char}
    (hp : p ∈ pieces isSep cs) : p ≠ [] := by
  have := (List.mem_filter.1 hp).2
  simpa using this

end RuntimeLauncher.Text
