import Mathlib.Data.List.Forall2
import RuntimeLauncher.Text.Character

/-!
# Small letters as a normal form

Mapping the ASCII capitals to small letters leaves every other character alone, and doing it twice
is doing it once. So two texts are equal up to case exactly if they have the same small letters.

## Main Definitions

* `CaseAlike` — the same character, or a capital and its small letter

## Main Statements

* `toLower_eq_self_or` — what becomes of a character
* `toLower_eq_toLower_iff`, `sameUpToCase_iff` — equality up to case, character by character
* `lower_lower` — small letters are a normal form
* `lowerString_eq_iff` — equality of the normal forms is equality up to case
-/

namespace RuntimeLauncher.Text

/-- Two characters that are the same, or a capital from A to Z and its small letter. -/
def CaseAlike (c d : Char) : Prop :=
  c = d ∨ (c.isUpper = true ∧ d.toNat = c.toNat + 32) ∨ (d.isUpper = true ∧ c.toNat = d.toNat + 32)

instance (c d : Char) : Decidable (CaseAlike c d) := inferInstanceAs (Decidable (_ ∨ _))

/-! ### Characters -/

theorem isUpper_iff {c : Char} : c.isUpper = true ↔ 65 ≤ c.toNat ∧ c.toNat ≤ 90 := by
  show decide (c.val ≥ 'A'.val ∧ c.val ≤ 'Z'.val) = true ↔ _
  rw [decide_eq_true_iff]
  exact and_congr UInt32.le_iff_toNat_le UInt32.le_iff_toNat_le

theorem toLower_of_not_isUpper {c : Char} (h : c.isUpper = false) : c.toLower = c :=
  dif_neg (of_decide_eq_false h)

theorem toNat_toLower_of_isUpper {c : Char} (h : c.isUpper = true) :
    c.toLower.toNat = c.toNat + 32 := by
  have hhigh : c.val.toNat ≤ 90 := (isUpper_iff.1 h).2
  have hval : c.toLower.val = c.val + 32 := congrArg Char.val (dif_pos (of_decide_eq_true h))
  show c.toLower.val.toNat = c.val.toNat + 32
  rw [hval, UInt32.toNat_add]
  exact Nat.mod_eq_of_lt (Nat.lt_of_le_of_lt (Nat.add_le_add_right hhigh 32) (by decide))

/-- A character stays as it is, or it is a capital and becomes a small letter. -/
theorem toLower_eq_self_or (c : Char) :
    c.toLower = c ∨ 65 ≤ c.toNat ∧ c.toNat ≤ 90 ∧ c.toLower.toNat = c.toNat + 32 := by
  cases h : c.isUpper with
  | false => exact .inl (toLower_of_not_isUpper h)
  | true =>
    obtain ⟨hlow, hhigh⟩ := isUpper_iff.1 h
    exact .inr ⟨hlow, hhigh, toNat_toLower_of_isUpper h⟩

theorem toNat_toLower (c : Char) :
    c.toLower.toNat = if 65 ≤ c.toNat ∧ c.toNat ≤ 90 then c.toNat + 32 else c.toNat := by
  split
  · rename_i h
    exact toNat_toLower_of_isUpper (isUpper_iff.2 h)
  · rename_i h
    rw [toLower_of_not_isUpper (Bool.eq_false_iff.2 (mt isUpper_iff.1 h))]

/-- A small letter is no capital. -/
theorem isUpper_toLower (c : Char) : c.toLower.isUpper = false := by
  rw [Bool.eq_false_iff, Ne, isUpper_iff, toNat_toLower]
  split <;> omega

/-- **Two characters have one small letter if they are alike up to case.** -/
theorem toLower_eq_toLower_iff {c d : Char} : c.toLower = d.toLower ↔ CaseAlike c d := by
  have heq : c = d ↔ c.toNat = d.toNat := Char.toNat_inj.symm
  rw [CaseAlike, heq, ← Char.toNat_inj, toNat_toLower, toNat_toLower, isUpper_iff, isUpper_iff]
  -- Either character may be a capital, and the small letters have numbers of their own.
  split <;> split <;> omega

/-! ### Texts -/

/-- **Texts are equal up to case if their characters are,** one by one. -/
theorem sameUpToCase_iff {a b : List Char} :
    sameUpToCase a b = true ↔ List.Forall₂ CaseAlike a b := by
  rw [sameUpToCase, beq_iff_eq, lower, lower, ← List.forall₂_eq_eq_eq, List.forall₂_map_left_iff,
    List.forall₂_map_right_iff]
  simp only [toLower_eq_toLower_iff]

/-- A text without capitals stands in small letters. -/
theorem lower_eq_self {cs : List Char} (h : ∀ c ∈ cs, c.isUpper = false) : lower cs = cs :=
  (List.map_congr_left fun c hc => toLower_of_not_isUpper (h c hc)).trans (List.map_id cs)

/-- Small letters hold no capital. -/
theorem isUpper_of_mem_lower {cs : List Char} {c : Char} (hc : c ∈ lower cs) :
    c.isUpper = false := by
  obtain ⟨d, -, rfl⟩ := List.mem_map.1 hc
  exact isUpper_toLower d

@[simp]
theorem lower_lower (cs : List Char) : lower (lower cs) = lower cs :=
  lower_eq_self fun _ => isUpper_of_mem_lower

/-- Two strings have the same small letters if they are equal up to case. -/
theorem lowerString_eq_iff {a b : String} :
    lowerString a = lowerString b ↔ sameUpToCase a.toList b.toList = true := by
  rw [lowerString, lowerString, String.ofList_inj, sameUpToCase, beq_iff_eq]

end RuntimeLauncher.Text
