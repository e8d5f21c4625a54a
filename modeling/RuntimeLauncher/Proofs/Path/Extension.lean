import Mathlib.Data.List.TakeWhile
import RuntimeLauncher.Path.Basic

/-!
# What the extension of a file name is

A file name has an extension if it is a stem, a dot and an ending. The stem is not empty, so a
hidden name has no extension unless it has a second dot, and the ending has no dot. The name of the
directory above has none, although it looks like a dot behind a stem.

## Main Definitions

* `HasEnding` — a name is a stem, a dot and an ending that is the extension up to case

## Main Statements

* `extension?_eq_some_iff` — the extension of a name is its ending
* `hasExtension_iff` — the test for an extension by the parts of the name
-/

namespace RuntimeLauncher.Path

section Chars

variable {name ending : List Char}

theorem ne_dot_of_mem_reverse (h : '.' ∉ name) : ∀ c ∈ name.reverse, (c != '.') = true := by
  intro c hc
  simpa using ne_of_mem_of_not_mem (List.mem_reverse.1 hc) h

/-- The text behind the last dot, read from the end. -/
theorem takeWhile_reverse_of_dot (stem : List Char) (h : '.' ∉ ending) :
    (stem ++ '.' :: ending).reverse.takeWhile (· != '.') = ending.reverse := by
  rw [List.reverse_append, List.reverse_cons, List.append_assoc,
    List.takeWhile_append_of_pos (ne_dot_of_mem_reverse h)]
  simp

/-- The text before the last dot, read from the end. -/
theorem drop_reverse_of_dot (stem ending : List Char) :
    (stem ++ '.' :: ending).reverse.drop (ending.reverse.length + 1) = stem.reverse := by
  have hcut : (stem ++ '.' :: ending).reverse = (ending.reverse ++ ['.']) ++ stem.reverse := by
    simp
  rw [hcut]
  exact List.drop_left' (by simp)

/-- A name with a dot has a last one. -/
theorem exists_last_dot (h : '.' ∈ name) :
    ∃ stem ending, name = stem ++ '.' :: ending ∧ '.' ∉ ending := by
  obtain ⟨back, front, hcut, hback⟩ := List.eq_append_cons_of_mem (List.mem_reverse.2 h)
  refine ⟨front.reverse, back.reverse, ?_, by simpa using hback⟩
  rw [← List.reverse_reverse name, hcut]
  simp

/-- The last dot of a name is in front of its extension, unless nothing stands before the dot. -/
theorem extension?_of_dot (stem : List Char) (h : '.' ∉ ending)
    (hname : stem ++ '.' :: ending ≠ ['.', '.']) :
    extension? (stem ++ '.' :: ending) = if stem = [] then none else some ending := by
  simp only [extension?, if_neg hname, takeWhile_reverse_of_dot stem h, drop_reverse_of_dot]
  cases stem <;> simp

/-- A name without a dot has no extension. -/
theorem extension?_of_not_mem (h : '.' ∉ name) : extension? name = none := by
  simp [extension?, List.takeWhile_eq_self_iff.2 (ne_dot_of_mem_reverse h)]

/-- **The extension of a name is its ending,** behind the last dot and a stem. -/
theorem extension?_eq_some_iff (hname : name ≠ ['.', '.']) :
    extension? name = some ending ↔
      '.' ∉ ending ∧ ∃ stem, stem ≠ [] ∧ name = stem ++ '.' :: ending := by
  constructor
  · intro h
    have hdot : '.' ∈ name := by
      by_contra hdot
      simp [extension?_of_not_mem hdot] at h
    obtain ⟨stem, back, rfl, hback⟩ := exists_last_dot hdot
    rw [extension?_of_dot stem hback hname] at h
    obtain ⟨hstem, rfl⟩ : stem ≠ [] ∧ back = ending := by simpa using h
    exact ⟨hback, stem, hstem, rfl⟩
  · rintro ⟨hending, stem, hstem, rfl⟩
    rw [extension?_of_dot stem hending hname, if_neg hstem]

end Chars

/-- The name is a stem, a dot and an ending without dots, which is the extension up to ASCII
case. -/
def HasEnding (name extension : String) : Prop :=
  ∃ stem ending : String, name = stem ++ "." ++ ending ∧ stem ≠ "" ∧ '.' ∉ ending.toList ∧
    Text.sameUpToCase ending.toList extension.toList = true

/-- **The test for an extension by the parts of the name.** -/
theorem hasExtension_iff {name : String} (hname : name ≠ "..") (extension : String) :
    hasExtension name extension = true ↔ HasEnding name extension := by
  have hchars : name.toList ≠ ['.', '.'] := fun h => hname (String.toList_injective h)
  constructor
  · intro h
    rw [hasExtension] at h
    split at h
    · cases h
    · rename_i ending hending
      obtain ⟨hdot, stem, hstem, hcut⟩ := (extension?_eq_some_iff hchars).1 hending
      refine ⟨String.ofList stem, String.ofList ending, String.toList_injective ?_, ?_, ?_, ?_⟩
      · simp [hcut]
      · simpa using hstem
      · simpa using hdot
      · simpa using h
  · rintro ⟨stem, ending, hcut, hstem, hdot, hcase⟩
    have hending : extension? name.toList = some ending.toList :=
      (extension?_eq_some_iff hchars).2 ⟨hdot, stem.toList, by simpa using hstem, by simp [hcut]⟩
    simpa [hasExtension, hending] using hcase

end RuntimeLauncher.Path
