import Mathlib.Data.String.Basic

/-!
# The order of texts is the order of their bytes

Texts are ordered by their characters, one after another. In UTF-8 a greater character is spelled by
greater bytes, and no character's bytes begin those of another one. So it makes no difference
whether two texts are ordered by their characters or by their bytes.

## Main Definitions

* `bytes` — a text in UTF-8

## Main Statements

* `utf8EncodeChar_append_lt` — the first two characters that differ decide the order of the bytes
* `bytes_lt_iff` — both orders agree
-/

namespace RuntimeLauncher.Text

/-- A text in UTF-8. -/
def bytes (s : String) : List UInt8 := s.toUTF8.data.toList

theorem bytes_eq_flatMap (s : String) : bytes s = s.toList.flatMap String.utf8EncodeChar := by
  rw [bytes, String.toUTF8, ← String.utf8Encode_toList, List.utf8Encode, List.data_toByteArray]

/-- The last digit decides where all digits before it are the same. -/
theorem last_digit_lt {v w : Nat} (h : v < w) :
    v / 64 < w / 64 ∨ v / 64 = w / 64 ∧ v % 64 < w % 64 := by
  omega

/-- **The first two characters that differ decide the order of the bytes,** whatever follows. -/
theorem utf8EncodeChar_append_lt {c d : Char} (h : c < d) (s t : List UInt8) :
    String.utf8EncodeChar c ++ s < String.utf8EncodeChar d ++ t := by
  have hval : c.val.toNat < d.val.toNat := h
  have hmax : d.val.toNat < 0x110000 := by
    rcases d.valid with hlow | hhigh <;> omega
  unfold String.utf8EncodeChar
  simp only
  generalize c.val.toNat = v at hval
  generalize d.val.toNat = w at hval hmax
  -- A character has up to four digits to the base 64, and the first one that differs decides.
  have hlast := last_digit_lt hval
  have hthird : v / 64 < w / 64 →
      v / 4096 < w / 4096 ∨ v / 4096 = w / 4096 ∧ v / 64 % 64 < w / 64 % 64 := by omega
  have hsecond : v / 4096 < w / 4096 →
      v / 262144 < w / 262144 ∨ v / 262144 = w / 262144 ∧ v / 4096 % 64 < w / 4096 % 64 := by
    omega
  split <;> [skip; split <;> [skip; split]] <;>
    (split <;> [skip; split <;> [skip; split]]) <;>
    simp only [List.cons_append, List.nil_append, List.cons_lt_cons_iff, UInt8.lt_iff_toNat_lt,
      ← UInt8.toNat_inj, UInt8.toNat_ofNat'] <;>
    simp (disch := omega) only [Nat.mod_eq_of_lt] <;>
    omega

theorem append_lt_append_left {a b : List UInt8} (front : List UInt8) (h : a < b) :
    front ++ a < front ++ b := by
  induction front with
  | nil => exact h
  | cons byte rest ih => exact List.cons_lt_cons_iff.2 (.inr ⟨rfl, ih⟩)

theorem nil_lt_bytes {c : Char} {cs : List Char} :
    [] < (c :: cs).flatMap String.utf8EncodeChar := by
  obtain ⟨byte, rest, h⟩ := List.exists_cons_of_ne_nil (String.utf8EncodeChar_ne_nil (c := c))
  rw [List.flatMap_cons, h]
  exact List.nil_lt_cons byte _

theorem flatMap_utf8EncodeChar_lt {cs ds : List Char} (h : cs < ds) :
    cs.flatMap String.utf8EncodeChar < ds.flatMap String.utf8EncodeChar := by
  induction cs generalizing ds with
  | nil =>
    cases ds with
    | nil => exact absurd h (List.lt_irrefl [])
    | cons d ds => exact nil_lt_bytes
  | cons c cs ih =>
    cases ds with
    | nil => exact absurd h (List.not_lt_nil _)
    | cons d ds =>
      rw [List.flatMap_cons, List.flatMap_cons]
      obtain hlt | ⟨rfl, hrest⟩ := List.cons_lt_cons_iff.1 h
      · exact utf8EncodeChar_append_lt hlt _ _
      · exact append_lt_append_left _ (ih hrest)

/-- **The order of texts is the order of their bytes.** -/
theorem bytes_lt_iff {a b : String} : bytes a < bytes b ↔ a < b := by
  have hmono {a b : String} (h : a < b) : bytes a < bytes b := by
    rw [bytes_eq_flatMap, bytes_eq_flatMap]
    exact flatMap_utf8EncodeChar_lt (String.lt_iff_toList_lt.1 h)
  refine ⟨fun h => ?_, hmono⟩
  -- The other two orders of the texts would give the bytes another order.
  rcases lt_trichotomy a b with hlt | rfl | hgt
  · exact hlt
  · exact absurd h (List.lt_irrefl _)
  · exact absurd h (List.lt_asymm (hmono hgt))

end RuntimeLauncher.Text
