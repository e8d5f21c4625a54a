import RuntimeLauncher.Path.Style
import RuntimeLauncher.Proofs.Text.Pieces

/-!
# What a resolved path looks like

A relative path is cut into its names, and the names are joined to the base one after another. So
the resolved path has the names of the base and then those of the path. What the cutting throws away
is not restored: doubled slashes and a slash at the end.

## Main Statements

* `names_joinChars` — joining a name adds that name
* `names_foldl_joinChars`, `prefix_foldl_joinChars`, `isAbsolute_foldl_joinChars` — joining names
  one after another adds those names, leaves the base in front, and starts where the base does
* `Style.resolve_of_relative`, `Style.resolve_native` — a relative path is resolved by joining its
  pieces to the base, which are its names in the style of the system
* `Style.names_resolve` — the names of a resolved path

## Design Notes

A base that does not end in a slash is followed by one, so a name never merges with the last name of
the base. All that follows rests on this and on names being free of slashes.
-/

namespace RuntimeLauncher.Path

variable {base name : List Char} {parts : List (List Char)}

theorem isOpen_iff : isOpen base = true ↔ base = [] ∨ base.getLast? = some '/' := by
  unfold isOpen
  cases h : base.getLast? with
  | none => simp [List.getLast?_eq_none_iff.1 h]
  | some c =>
    have hne : base ≠ [] := by rintro rfl; simp at h
    simp [hne]

theorem isAbsolute_iff : isAbsolute base = true ↔ base.head? = some '/' := beq_iff_eq

theorem isAbsolute_eq_false_iff : isAbsolute base = false ↔ base.head? ≠ some '/' :=
  beq_eq_false_iff_ne

/-- A name does not start with a slash. -/
theorem not_isAbsolute_of_isPiece (h : Text.IsPiece (· == '/') name) : isAbsolute name = false := by
  obtain ⟨c, rest, rfl⟩ := List.exists_cons_of_ne_nil h.1
  simpa [isAbsolute] using h.2 c

theorem joinChars_of_isPiece (h : Text.IsPiece (· == '/') name) :
    joinChars base name = if isOpen base then base ++ name else base ++ '/' :: name := by
  rw [joinChars, not_isAbsolute_of_isPiece h]
  rfl

@[simp]
theorem names_nil : names [] = [] := rfl

/-- A slash divides the names on both sides. -/
theorem names_append_slash (front rest : List Char) :
    names (front ++ '/' :: rest) = names front ++ names rest :=
  Text.pieces_append_sep (by rfl) front rest

theorem names_of_isPiece (h : Text.IsPiece (· == '/') name) : names name = [name] := h.pieces_eq

/-- **Joining a name adds that name.** A slash at the end of the base divides as well as one that is
put there. -/
theorem names_joinChars (h : Text.IsPiece (· == '/') name) :
    names (joinChars base name) = names base ++ [name] := by
  rw [joinChars_of_isPiece h]
  split
  · rename_i hopen
    obtain rfl | hlast := isOpen_iff.1 hopen
    · exact names_of_isPiece h
    · obtain ⟨front, rfl⟩ := List.getLast?_eq_some_iff.1 hlast
      rw [List.append_assoc, List.singleton_append, names_append_slash, names_append_slash,
        names_of_isPiece h, names_nil, List.append_nil]
  · rw [names_append_slash, names_of_isPiece h]

/-- What is joined stands at the end, and the base in front. -/
theorem exists_joinChars_eq (base : List Char) (h : Text.IsPiece (· == '/') name) :
    ∃ middle, joinChars base name = base ++ middle ++ name := by
  rw [joinChars_of_isPiece h]
  split
  · exact ⟨[], by simp⟩
  · exact ⟨['/'], by simp⟩

/-- Joining names one after another adds those names. -/
theorem names_foldl_joinChars (h : ∀ part ∈ parts, Text.IsPiece (· == '/') part) :
    names (parts.foldl joinChars base) = names base ++ parts := by
  induction parts generalizing base with
  | nil => simp
  | cons part rest ih =>
    rw [List.foldl_cons, ih fun p hp => h p (List.mem_cons_of_mem _ hp),
      names_joinChars (h part List.mem_cons_self), List.append_assoc, List.singleton_append]

/-- The base stands in front of what the names are joined to. -/
theorem prefix_foldl_joinChars (h : ∀ part ∈ parts, Text.IsPiece (· == '/') part) :
    base <+: parts.foldl joinChars base := by
  induction parts generalizing base with
  | nil => exact List.prefix_rfl
  | cons part rest ih =>
    obtain ⟨middle, hjoin⟩ := exists_joinChars_eq base (h part List.mem_cons_self)
    rw [List.foldl_cons]
    refine List.IsPrefix.trans ?_ (ih fun p hp => h p (List.mem_cons_of_mem _ hp))
    exact ⟨middle ++ part, by rw [hjoin, List.append_assoc]⟩

theorem isAbsolute_append {cs : List Char} (h : cs ≠ []) (ds : List Char) :
    isAbsolute (cs ++ ds) = isAbsolute cs := by
  obtain ⟨c, rest, rfl⟩ := List.exists_cons_of_ne_nil h
  rfl

/-- A name does not move a path to the root or away from there. -/
theorem isAbsolute_joinChars (base : List Char) (h : Text.IsPiece (· == '/') name) :
    isAbsolute (joinChars base name) = isAbsolute base := by
  rw [joinChars_of_isPiece h]
  by_cases hbase : base = []
  · subst hbase
    exact not_isAbsolute_of_isPiece h
  · split <;> exact isAbsolute_append hbase _

theorem isAbsolute_foldl_joinChars (h : ∀ part ∈ parts, Text.IsPiece (· == '/') part) :
    isAbsolute (parts.foldl joinChars base) = isAbsolute base := by
  induction parts generalizing base with
  | nil => rfl
  | cons part rest ih =>
    rw [List.foldl_cons, ih fun p hp => h p (List.mem_cons_of_mem _ hp),
      isAbsolute_joinChars base (h part List.mem_cons_self)]

/-- No character of a name is lost. -/
theorem mem_foldl_joinChars (h : ∀ part ∈ parts, Text.IsPiece (· == '/') part) {c : Char}
    (hname : name ∈ parts) (hc : c ∈ name) : c ∈ parts.foldl joinChars base := by
  induction parts generalizing base with
  | nil => cases hname
  | cons part rest ih =>
    have hrest : ∀ p ∈ rest, Text.IsPiece (· == '/') p := fun p hp =>
      h p (List.mem_cons_of_mem _ hp)
    rw [List.foldl_cons]
    obtain rfl | hname := List.mem_cons.1 hname
    · obtain ⟨middle, hjoin⟩ := exists_joinChars_eq base (h name List.mem_cons_self)
      refine (prefix_foldl_joinChars hrest).subset ?_
      rw [hjoin]
      exact List.mem_append_right _ hc
    · exact ih hrest hname

/-- Names with a slash in front of each are read back. -/
theorem names_append_flatMap (base : List Char)
    (h : ∀ part ∈ parts, Text.IsPiece (· == '/') part) :
    names (base ++ parts.flatMap ('/' :: ·)) = names base ++ parts := by
  induction parts generalizing base with
  | nil => simp
  | cons part rest ih =>
    have hbase : names (base ++ '/' :: part) = names base ++ [part] := by
      rw [names_append_slash, names_of_isPiece (h part List.mem_cons_self)]
    rw [List.flatMap_cons, ← List.append_assoc, ih _ fun p hp => h p (List.mem_cons_of_mem _ hp),
      hbase, List.append_assoc, List.singleton_append]

/-! ### Resolved paths -/

theorem isPiece_of_mem_names {path : List Char} (h : name ∈ names path) :
    Text.IsPiece (· == '/') name :=
  Text.isPiece_of_mem_pieces h

/-- Every character of a path but the slashes stands in a name. -/
theorem exists_mem_names {path : List Char} {c : Char} (hc : c ∈ path) (hslash : c ≠ '/') :
    ∃ name ∈ names path, c ∈ name :=
  Text.mem_pieces_of_mem hc (by simpa using hslash)

/-- A relative path is resolved by joining its pieces to the base. -/
theorem Style.resolve_of_relative {path : String} (style : Style) (base : String)
    (hrel : isAbsolute path.toList = false) :
    (style.resolve base path).toList =
      (Text.pieces (· == style.dirSeparator) path.toList).foldl joinChars base.toList := by
  simp [resolve, resolveChars, hrel]

/-- In the style of the system, the pieces are the names. -/
theorem Style.resolve_native {path : String} (base : String)
    (hrel : isAbsolute path.toList = false) :
    (native.resolve base path).toList = (names path.toList).foldl joinChars base.toList :=
  native.resolve_of_relative base hrel

/-- An absolute path is resolved to itself. -/
theorem Style.resolve_of_isAbsolute {path : String} (style : Style) (base : String)
    (habs : isAbsolute path.toList = true) : style.resolve base path = path := by
  simp [resolve, resolveChars, habs]

/-- A relative path adds its names. -/
theorem Style.names_resolve {path : String} (base : String)
    (hrel : isAbsolute path.toList = false) :
    names (native.resolve base path).toList = names base.toList ++ names path.toList := by
  rw [resolve_native base hrel, names_foldl_joinChars fun _ => isPiece_of_mem_names]

/-- No character of a relative path is lost, other than slashes. -/
theorem Style.mem_resolve {path : String} (base : String) (hrel : isAbsolute path.toList = false)
    {c : Char} (hc : c ∈ path.toList) (hslash : c ≠ '/') :
    c ∈ (native.resolve base path).toList := by
  obtain ⟨name, hname, hmem⟩ := exists_mem_names hc hslash
  rw [resolve_native base hrel]
  exact mem_foldl_joinChars (fun _ h => isPiece_of_mem_names h) hname hmem

/-- A relative path is resolved to an absolute one below an absolute base only. -/
theorem Style.isAbsolute_resolve {path : String} (base : String)
    (hrel : isAbsolute path.toList = false) :
    isAbsolute (native.resolve base path).toList = isAbsolute base.toList := by
  rw [resolve_native base hrel, isAbsolute_foldl_joinChars fun _ => isPiece_of_mem_names]

/-- A single name is joined to the base. -/
theorem Style.resolve_of_isPiece {name : String} (base : String)
    (h : Text.IsPiece (· == '/') name.toList) : native.resolve base name = join base name := by
  apply String.toList_inj.1
  rw [resolve_native base (not_isAbsolute_of_isPiece h), names_of_isPiece h, join,
    String.toList_ofList]
  rfl

end RuntimeLauncher.Path
