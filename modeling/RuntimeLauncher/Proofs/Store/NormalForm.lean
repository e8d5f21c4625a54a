import RuntimeLauncher.Proofs.Store.KeyPath

/-!
# Normal spellings are a canonical form

Of all spellings of a key path, the normal one is distinguished by its looks alone: its components
stand in small letters, with one backslash between neighbours and none before or behind. A text that
looks like this is its own normal spelling, and two paths have one normal spelling if their parts
agree, one by one, up to the case of ASCII letters.

## Main Definitions

* `KeyPath.parts` — what is written between the separators of a path
* `KeyPath.IsNormal` — what a normal spelling looks like

## Main Statements

* `normal_eq_stepwise` — the normal spelling is made in four steps from the text as a whole
* `normal_eq_iff_parts` — which paths have one normal spelling
* `normal_eq_self_iff` — the normal spellings are the texts that look like one
* `normal_glued` — the normal spelling of a path below another

## Design Notes

A separator at the front, at the end or beside another one is where an empty piece would be read.
The components of a path are never empty, and the joined text is cut into the components again. This
settles the three conditions on the backslashes together.
-/

namespace RuntimeLauncher.KeyPath

variable {a b path : String}

/-! ### What a normal spelling is made of -/

/-- What is written between the slashes and backslashes of a path, where anything is. -/
def parts (path : String) : List (List Char) :=
  (path.toList.splitOnP fun c => c = '/' ∨ c = '\\').filter (· ≠ [])

theorem parts_eq (path : String) : parts path = Text.pieces isSeparator path.toList := by
  have hsep : (fun c => decide (c = '/' ∨ c = '\\')) = isSeparator := by
    funext c
    rw [Bool.eq_iff_iff, decide_eq_true_iff, isSeparator_iff]
  rw [parts, hsep, Text.pieces_eq_filter]

/-- **Two paths have one normal spelling if their parts agree up to case,** one by one. -/
theorem normal_eq_iff_parts :
    normal a = normal b ↔ List.Forall₂ (List.Forall₂ Text.CaseAlike) (parts a) (parts b) := by
  rw [normal_eq_iff, components_eq_iff, parts_eq, parts_eq]
  simp only [Text.sameUpToCase_iff]

/-- **The normal spelling is made in four steps from the text as a whole:** slashes are turned into
backslashes, the text is cut there, its non-empty pieces are joined, and capitals become small. -/
theorem normal_eq_stepwise (path : String) :
    normal path = Text.lowerString (String.ofList (Text.joinWith '\\' (Text.pieces (· == '\\')
      (path.toList.map fun c => if c = '/' then '\\' else c)))) := by
  have hpieces : Text.pieces (· == '\\') (path.toList.map fun c => if c = '/' then '\\' else c) =
      Text.pieces isSeparator path.toList := by
    apply Text.pieces_map_eq
    · intro c _
      by_cases hslash : c = '/' <;> simp [isSeparator, hslash]
    · intro c hc
      rw [if_neg]
      rintro rfl
      cases hc
  rw [hpieces, Text.lowerString, String.toList_ofList, Text.lower, Text.map_joinWith]
  rfl

/-! ### What a normal spelling looks like -/

/-- What a normal spelling looks like. -/
structure IsNormal (path : String) : Prop where
  /-- Only backslashes divide components. -/
  no_slash : '/' ∉ path.toList
  /-- The letters are small. -/
  no_capital : ∀ c ∈ path.toList, c.isUpper = false
  /-- No backslash stands at the front. -/
  no_leading : path.toList.head? ≠ some '\\'
  /-- No backslash stands at the end. -/
  no_trailing : path.toList.getLast? ≠ some '\\'
  /-- No backslash stands beside another one. -/
  no_doubled : ¬ ['\\', '\\'] <:+: path.toList

theorem toList_normal (path : String) :
    (normal path).toList = Text.joinWith '\\' (components path) :=
  String.toList_ofList

/-- A normal spelling is cut into the components at its backslashes. -/
theorem splitBy_normal (h : components path ≠ []) :
    Text.splitBy (· == '\\') (normal path).toList = components path := by
  rw [toList_normal]
  refine (Text.splitBy_joinWith_eq_iff rfl h).2 fun p hp c hc => ?_
  have hsep := (isPiece_of_mem_components hp).2 c hc
  rw [Bool.eq_false_iff, Ne, isSeparator_iff] at hsep
  simpa using fun hback => hsep (.inr hback)

/-- Every character of a normal spelling is a backslash or stands in a component. -/
theorem eq_backslash_or_of_mem_normal {c : Char} (hc : c ∈ (normal path).toList) :
    c = '\\' ∨ isSeparator c = false ∧ c.isUpper = false := by
  rw [toList_normal] at hc
  obtain rfl | ⟨p, hp, hcp⟩ := Text.mem_joinWith hc
  · exact .inl rfl
  · refine .inr ⟨(isPiece_of_mem_components hp).2 c hcp, ?_⟩
    obtain ⟨q, -, rfl⟩ := List.mem_map.1 hp
    exact Text.isUpper_of_mem_lower hcp

/-- Every backslash of a normal spelling stands between two components. -/
theorem backslashes_normal (path : String) :
    ¬ ((normal path).toList.head? = some '\\' ∨ (normal path).toList.getLast? = some '\\' ∨
      ['\\', '\\'] <:+: (normal path).toList) := by
  by_cases hroot : components path = []
  · simp [normal_eq_empty_iff.2 hroot]
  · have hne : (normal path).toList ≠ [] := by simpa using mt normal_eq_empty_iff.1 hroot
    rw [← Text.nil_mem_splitBy_iff hne, splitBy_normal hroot]
    exact fun hnil => (isPiece_of_mem_components hnil).1 rfl

/-- **A normal spelling looks like one.** -/
theorem isNormal_normal (path : String) : IsNormal (normal path) where
  no_slash hc := by simpa [isSeparator] using eq_backslash_or_of_mem_normal hc
  no_capital c hc := by
    obtain rfl | ⟨-, hsmall⟩ := eq_backslash_or_of_mem_normal hc
    · rfl
    · exact hsmall
  no_leading h := backslashes_normal path (.inl h)
  no_trailing h := backslashes_normal path (.inr (.inl h))
  no_doubled h := backslashes_normal path (.inr (.inr h))

/-- In a text that looks like a normal spelling, the components are all that the backslashes
divide. -/
theorem IsNormal.components_eq (h : IsNormal path) (hne : path ≠ "") :
    components path = Text.splitBy (· == '\\') path.toList := by
  have hnil : [] ∉ Text.splitBy (· == '\\') path.toList := by
    rw [Text.nil_mem_splitBy_iff (by simpa using hne)]
    exact not_or.2 ⟨h.no_leading, not_or.2 ⟨h.no_trailing, h.no_doubled⟩⟩
  have hsep : ∀ c ∈ path.toList, (c == '\\') = isSeparator c := by
    intro c hc
    have hslash : c ≠ '/' := ne_of_mem_of_not_mem hc h.no_slash
    simp [isSeparator, hslash]
  have hcut : Text.pieces (· == '\\') path.toList = Text.pieces isSeparator path.toList := by
    simpa using Text.pieces_map_eq (f := id) hsep fun _ _ => rfl
  rw [components_eq_pieces_lower, Text.lower_eq_self h.no_capital, ← hcut, Text.pieces,
    List.filter_eq_self]
  intro p hp
  simpa using ne_of_mem_of_not_mem hp hnil

/-- **A text that looks like a normal spelling is its own.** -/
theorem IsNormal.normal_eq (h : IsNormal path) : normal path = path := by
  by_cases hroot : path = ""
  · subst hroot
    rfl
  · rw [normal, h.components_eq hroot, Text.joinWith_splitBy, String.ofList_toList]

/-- **The normal spellings are the texts that look like one.** -/
theorem normal_eq_self_iff : normal path = path ↔ IsNormal path :=
  ⟨fun h => h ▸ isNormal_normal path, IsNormal.normal_eq⟩

instance (path : String) : Decidable (IsNormal path) := decidable_of_iff _ normal_eq_self_iff

example : IsNormal "software\\java 1.8" ∧ ¬ IsNormal "software\\\\java 1.8" := by decide

/-! ### Glued paths -/

/-- **The normal spelling of a path below another** is that of both with a backslash between. The
root is spelled by nothing, and then neither is the backslash. -/
theorem normal_glued (a b : String) :
    normal (a ++ "\\" ++ b) =
      if normal a = "" then normal b
      else if normal b = "" then normal a
      else normal a ++ "\\" ++ normal b := by
  rw [← below_normal, below]
  by_cases ha : normal a = "" <;> by_cases hb : normal b = "" <;> simp [ha, hb]

/-! ### A canonical form -/

/-- **Normal spellings are a canonical form of key paths.**  Two paths have one normal spelling
exactly if they have as many parts and the parts agree, one by one, up to the case of ASCII letters.
A normal spelling is its own, and texts are their own normal spelling exactly if they look like one:
no slash, no capital, and backslashes only one at a time between other characters. The normal
spelling of two paths with a backslash between is made of theirs. -/
theorem normal_is_canonical :
    (∀ a b : String, normal a = normal b ↔
      List.Forall₂ (List.Forall₂ Text.CaseAlike) (parts a) (parts b)) ∧
    (∀ path : String, normal (normal path) = normal path) ∧
    (∀ path : String, IsNormal (normal path)) ∧
    (∀ text : String, normal text = text ↔ IsNormal text) ∧
    ∀ a b : String, normal (a ++ "\\" ++ b) =
      if normal a = "" then normal b
      else if normal b = "" then normal a
      else normal a ++ "\\" ++ normal b := by
  refine ⟨fun a b => normal_eq_iff_parts, fun path => ?_, isNormal_normal,
    fun text => normal_eq_self_iff, normal_glued⟩
  exact (isNormal_normal path).normal_eq

end RuntimeLauncher.KeyPath
