import RuntimeLauncher.Proofs.Text.AsciiCase
import RuntimeLauncher.Proofs.Text.Pieces
import RuntimeLauncher.Store.KeyPath

/-!
# Normal spellings stand for rows of components

A key path has many spellings and one row of components. This module shows that the normal spelling
carries exactly the components: it is determined by them and gives them back, and the textual test
for a key at or above another one is the prefix order on components.

## Main Statements

* `components_append` — a separator between two spellings joins their components
* `components_normal`, `normal_eq_iff` — the normal spelling stands for the components
* `covers_normal_iff` — `covers` is the prefix order
* `below_normal` — going below a normal spelling is gluing and normalising
* `covers_of_covers_below` — what lies below a lower key lies below the upper one

## Design Notes

Every component is a piece without separators and stays one in small letters. This is what makes
the textual prefix test sound: the backslash behind a normal spelling can only end a component.
-/

namespace RuntimeLauncher.KeyPath

/-! ### Components -/

theorem isSeparator_iff {c : Char} : isSeparator c = true ↔ c = '/' ∨ c = '\\' := by
  simp [isSeparator]

/-- Small letters keep separators apart from all other characters. -/
theorem isSeparator_toLower (c : Char) : isSeparator c.toLower = isSeparator c := by
  rcases Text.toLower_eq_self_or c with h | ⟨hlow, hhigh, h⟩
  · rw [h]
  · -- Neither a capital nor its small letter is one of the two separators.
    have hnot : ∀ d : Char, 65 ≤ d.toNat → d.toNat ≠ 92 → isSeparator d = false := by
      intro d hd hne
      rw [Bool.eq_false_iff, Ne, isSeparator_iff]
      rintro (rfl | rfl)
      · exact absurd hd (by decide)
      · exact hne rfl
    rw [hnot c (by omega) (by omega), hnot c.toLower (by omega) (by omega)]

/-- Every component is a piece. -/
theorem isPiece_of_mem_components {path : String} {p : List Char} (hp : p ∈ components path) :
    Text.IsPiece isSeparator p := by
  obtain ⟨q, hq, rfl⟩ := List.mem_map.1 hp
  obtain ⟨hne, hsep⟩ := Text.isPiece_of_mem_pieces hq
  refine ⟨by simpa [Text.lower] using hne, fun c hc => ?_⟩
  obtain ⟨d, hd, rfl⟩ := List.mem_map.1 hc
  rw [isSeparator_toLower, hsep d hd]

/-- Components stand in small letters. -/
theorem map_lower_components (path : String) :
    (components path).map Text.lower = components path := by
  simp [components, List.map_map, Function.comp_def]

/-- Components are the same if the pieces of the spellings are, up to case. -/
theorem components_eq_iff {a b : String} :
    components a = components b ↔ List.Forall₂ (fun p q => Text.sameUpToCase p q = true)
      (Text.pieces isSeparator a.toList) (Text.pieces isSeparator b.toList) := by
  rw [components, components, ← List.forall₂_eq_eq_eq, List.forall₂_map_left_iff,
    List.forall₂_map_right_iff]
  simp only [Text.sameUpToCase, beq_iff_eq]

/-- The components can be taken of the text in small letters. -/
theorem components_eq_pieces_lower (path : String) :
    components path = Text.pieces isSeparator (Text.lower path.toList) := by
  exact (Text.pieces_map fun c _ => isSeparator_toLower c).symm

/-- **A separator between two spellings joins their components.** -/
theorem components_append (a b : String) :
    components (a ++ "\\" ++ b) = components a ++ components b := by
  have hlist : (a ++ "\\" ++ b).toList = a.toList ++ '\\' :: b.toList := by simp
  rw [components, hlist, Text.pieces_append_sep rfl, List.map_append]
  rfl

/-! ### The normal spelling -/

/-- **The normal spelling has the components of the path.** -/
@[simp]
theorem components_normal (path : String) : components (normal path) = components path := by
  rw [normal, components, String.toList_ofList,
    Text.pieces_joinWith rfl fun _ => isPiece_of_mem_components, map_lower_components]

/-- **Two paths have one normal spelling if they have the same components.** -/
theorem normal_eq_iff {a b : String} : normal a = normal b ↔ components a = components b := by
  rw [normal, normal, String.ofList_inj]
  exact Text.joinWith_inj rfl (fun _ => isPiece_of_mem_components)
    fun _ => isPiece_of_mem_components

/-- The root is spelled by the empty text only. -/
theorem normal_eq_empty_iff {path : String} : normal path = "" ↔ components path = [] :=
  normal_eq_iff (b := "")

/-- **A normal spelling covers another one if its components come first there.** -/
theorem covers_normal_iff {above path : String} :
    covers (normal above) (normal path) = true ↔ components above <+: components path := by
  have habove : ∀ p ∈ components above, Text.IsPiece isSeparator p :=
    fun _ => isPiece_of_mem_components
  have hpath : ∀ p ∈ components path, Text.IsPiece isSeparator p :=
    fun _ => isPiece_of_mem_components
  by_cases hroot : components above = []
  · have hempty : normal above = "" := normal_eq_empty_iff.2 hroot
    simp [covers, hempty, hroot]
  · have hne : (normal above).isEmpty = false :=
      String.isEmpty_eq_false_iff.2 (mt normal_eq_empty_iff.1 hroot)
    have hupper : (normal above ++ "\\").toList =
        Text.joinWith '\\' (components above) ++ ['\\'] := by simp [normal]
    have hbelow : (normal above ++ "\\").toList <+: (normal path).toList ↔
        components above <+: components path ∧ components above ≠ components path := by
      rw [hupper, normal, String.toList_ofList]
      exact Text.joinWith_sep_prefix_iff rfl habove hpath hroot
    simp only [covers, hne, Bool.or_false, Bool.or_eq_true, beq_iff_eq, List.isPrefixOf_iff_prefix,
      hbelow, normal_eq_iff]
    constructor
    · rintro (heq | ⟨hpre, -⟩)
      · exact heq ▸ List.prefix_rfl
      · exact hpre
    · intro hpre
      by_cases heq : components path = components above
      · exact .inl heq
      · exact .inr ⟨hpre, Ne.symm heq⟩

/-! ### Keys below a key -/

/-- **Going below a normal spelling is gluing and normalising.** -/
theorem below_normal (above path : String) :
    below (normal above) path = normal (above ++ "\\" ++ path) := by
  by_cases hpath : components path = []
  · have hempty : normal path = "" := normal_eq_empty_iff.2 hpath
    have hglued : normal (above ++ "\\" ++ path) = normal above :=
      normal_eq_iff.2 (by simp [components_append, hpath])
    simp [below, hempty, hglued]
  · have hpath' : normal path ≠ "" := mt normal_eq_empty_iff.1 hpath
    by_cases habove : components above = []
    · have hempty : normal above = "" := normal_eq_empty_iff.2 habove
      have hglued : normal (above ++ "\\" ++ path) = normal path :=
        normal_eq_iff.2 (by simp [components_append, habove])
      simp [below, hempty, hglued, hpath']
    · have habove' : normal above ≠ "" := mt normal_eq_empty_iff.1 habove
      have hglued : normal (above ++ "\\" ++ path) = normal above ++ "\\" ++ normal path := by
        rw [normal, components_append, Text.joinWith_append habove hpath, normal, normal,
          ← String.toList_inj]
        simp
      simp [below, hpath', habove', hglued]

/-- What lies at or below a lower key lies at or below the upper one. -/
theorem covers_of_covers_below {above path other : String}
    (h : covers (below above path) other = true) : covers above other = true := by
  rw [below] at h
  split at h
  · exact h
  · split at h
    · -- The root covers everything.
      rename_i hroot
      simp [covers, hroot]
    · have hne : ¬ (above ++ "\\" ++ normal path).isEmpty = true := by simp
      have hprefix : (above ++ "\\").toList <+: other.toList := by
        simp only [covers, Bool.or_eq_true, beq_iff_eq, List.isPrefixOf_iff_prefix] at h
        rcases h with (heq | hempty) | hpre
        · rw [heq, String.toList_append (s := above ++ "\\")]
          exact List.prefix_append _ _
        · exact absurd hempty hne
        · rw [String.append_assoc, String.toList_append (s := above ++ "\\")] at hpre
          exact (List.prefix_append _ _).trans hpre
      simp only [covers, Bool.or_eq_true, List.isPrefixOf_iff_prefix]
      exact .inr hprefix

end RuntimeLauncher.KeyPath
