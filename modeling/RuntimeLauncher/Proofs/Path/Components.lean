import RuntimeLauncher.Proofs.Path.Style

/-!
# Spellings of one path

A path has many spellings. Doubled slashes, slashes at the end and names that are a single dot add
nothing to it, with one exception: a dot in front of a relative path is kept. What is left are the
components of the path.

Two paths can be put together in two ways: one is resolved where the other is resolved to, or it is
written behind the other and the whole is resolved. Both are the same path, unless the other is
spelled by the empty text. A directory and the name of a file in it are such paths, and resolving a
name is joining it.

## Main Definitions

* `Path.components` — what is left of a spelling
* `Path.Same` — two spellings of one path

## Main Statements

* `Style.resolve_append_of_relative`, `Style.names_resolve_append` — the two ways behind relative
  paths and behind any but the empty text
* `Style.resolve_below_of_relative`, `Style.resolve_below_of_isAbsolute` — a name below relative and
  below absolute directories
* `Style.same_resolve_below_iff` — when a name below a directory is the same path both ways

## Design Notes

Behind the empty text the slash comes first and makes the path absolute, although the empty text is
resolved to the base. For every other text the second path is resolved with the rest of the first
one, so the two ways differ at most in what an absolute path keeps of its spelling.
-/

namespace RuntimeLauncher

namespace Path

/-- What is left of the spelling of a path. -/
structure Components where
  absolute : Bool
  names : List (List Char)
deriving DecidableEq

/-- The names other than a single dot. -/
def proper (names : List (List Char)) : List (List Char) := names.filter (· ≠ ['.'])

/-- The components of a path. -/
def components (path : String) : Components :=
  if isAbsolute path.toList then ⟨true, proper (names path.toList)⟩
  else
    match names path.toList with
    | [] => ⟨false, []⟩
    | first :: rest => ⟨false, first :: proper rest⟩

/-- Two spellings of one path. -/
def Same (a b : String) : Prop := components a = components b

instance (a b : String) : Decidable (Same a b) := inferInstanceAs (Decidable (_ = _))

variable {a b base dir name : String}

theorem components_absolute (path : String) :
    (components path).absolute = isAbsolute path.toList := by
  rw [components]
  split
  · rename_i h
    exact h.symm
  · rename_i h
    split <;> exact (Bool.eq_false_iff.2 h).symm

theorem components_of_isAbsolute (h : isAbsolute a.toList = true) :
    components a = ⟨true, proper (names a.toList)⟩ :=
  if_pos h

theorem proper_concat {last : List Char} (front : List (List Char)) (h : last ≠ ['.']) :
    proper (front ++ [last]) = proper front ++ [last] := by
  simp [proper, h]

theorem same_of_names (habs : isAbsolute a.toList = isAbsolute b.toList)
    (hnames : names a.toList = names b.toList) : Same a b := by
  rw [Same, components, components, habs, hnames]

/-! ### A path below a path -/

theorem names_append (a b : String) :
    names (a ++ "/" ++ b).toList = names a.toList ++ names b.toList := by
  have htext : (a ++ "/" ++ b).toList = a.toList ++ '/' :: b.toList := by simp
  rw [htext, names_append_slash]

theorem isAbsolute_append_slash (hne : a ≠ "") (b : String) :
    isAbsolute (a ++ "/" ++ b).toList = isAbsolute a.toList := by
  have hchars : a.toList ≠ [] := by simpa using hne
  simp [isAbsolute_append hchars]

/-- A relative path is resolved where the path before it is resolved to. -/
theorem Style.resolve_append_of_relative (base : String) (hne : a ≠ "")
    (ha : isAbsolute a.toList = false) (hb : isAbsolute b.toList = false) :
    native.resolve base (a ++ "/" ++ b) = native.resolve (native.resolve base a) b := by
  apply String.toList_inj.1
  rw [resolve_native base (by rw [isAbsolute_append_slash hne, ha]), names_append,
    List.foldl_append, resolve_native _ hb, resolve_native base ha]

/-- Behind any path but the empty text, the two ways have the same names and start at the same
place. -/
theorem Style.names_resolve_append (base : String) (hne : a ≠ "")
    (hb : isAbsolute b.toList = false) :
    isAbsolute (native.resolve base (a ++ "/" ++ b)).toList =
        isAbsolute (native.resolve (native.resolve base a) b).toList ∧
      names (native.resolve base (a ++ "/" ++ b)).toList =
        names (native.resolve (native.resolve base a) b).toList := by
  cases ha : isAbsolute a.toList with
  | false =>
    rw [resolve_append_of_relative base hne ha hb]
    exact ⟨rfl, rfl⟩
  | true =>
    have hab : isAbsolute (a ++ "/" ++ b).toList = true := by rw [isAbsolute_append_slash hne, ha]
    rw [isAbsolute_resolve _ hb, names_resolve _ hb, native.resolve_of_isAbsolute base hab,
      native.resolve_of_isAbsolute base ha]
    exact ⟨hab.trans ha.symm, names_append a b⟩

/-! ### A name below a directory -/

/-- A name is joined with a slash where one is missing. -/
theorem join_of_isPiece (base : String) (h : Text.IsPiece (· == '/') name.toList) :
    join base name = if isOpen base.toList then base ++ name else base ++ "/" ++ name := by
  rw [join, joinChars_of_isPiece h]
  split <;> apply String.toList_inj.1 <;> simp

theorem names_below (dir : String) (h : Text.IsPiece (· == '/') name.toList) :
    names (dir ++ "/" ++ name).toList = names dir.toList ++ [name.toList] := by
  rw [names_append, names_of_isPiece h]

theorem names_join (base : String) (h : Text.IsPiece (· == '/') name.toList) :
    names (join base name).toList = names base.toList ++ [name.toList] := by
  rw [join, String.toList_ofList, names_joinChars h]

theorem isAbsolute_join (base : String) (h : Text.IsPiece (· == '/') name.toList) :
    isAbsolute (join base name).toList = isAbsolute base.toList := by
  rw [join, String.toList_ofList, isAbsolute_joinChars base.toList h]

/-- A relative path with a name behind it is resolved to the resolved path with that name. -/
theorem Style.resolve_below_of_relative (base : String) (hne : dir ≠ "")
    (hrel : isAbsolute dir.toList = false) (h : Text.IsPiece (· == '/') name.toList) :
    native.resolve base (dir ++ "/" ++ name) = join (native.resolve base dir) name := by
  rw [resolve_append_of_relative base hne hrel (not_isAbsolute_of_isPiece h),
    resolve_of_isPiece _ h]

/-- An absolute path with a name behind it is resolved to itself. It has one slash more than the
path with that name joined to it if it ends in a slash. -/
theorem Style.resolve_below_of_isAbsolute (base : String) (habs : isAbsolute dir.toList = true)
    (h : Text.IsPiece (· == '/') name.toList) :
    native.resolve base (dir ++ "/" ++ name) = dir ++ "/" ++ name ∧
      join (native.resolve base dir) name =
        if isOpen dir.toList then dir ++ name else dir ++ "/" ++ name := by
  have hne : dir ≠ "" := by
    rintro rfl
    cases habs
  have habs' : isAbsolute (dir ++ "/" ++ name).toList = true := by
    rw [isAbsolute_append_slash hne, habs]
  rw [native.resolve_of_isAbsolute base habs', native.resolve_of_isAbsolute base habs,
    join_of_isPiece dir h]
  exact ⟨rfl, rfl⟩

/-- **When the two ways are the same path.** Behind the empty text they are so only at the root. -/
theorem Style.same_resolve_below_iff (base dir : String)
    (h : Text.IsPiece (· == '/') name.toList) (hdot : name ≠ ".") :
    Same (native.resolve base (dir ++ "/" ++ name)) (join (native.resolve base dir) name) ↔
      dir ≠ "" ∨ Same base "/" := by
  by_cases hdir : dir = ""
  · subst hdir
    have hchars : name.toList ≠ ['.'] := fun hname => hdot (String.toList_inj.1 hname)
    -- The slash behind the empty text makes the path absolute.
    have habs : isAbsolute ("" ++ "/" ++ name).toList = true := by simp [isAbsolute]
    have hbase : native.resolve base "" = base := by
      apply String.toList_inj.1
      rw [resolve_native base rfl]
      rfl
    rw [native.resolve_of_isAbsolute base habs, hbase]
    simp only [ne_eq, not_true_eq_false, false_or]
    rw [Same, Same, components_of_isAbsolute habs, names_below "" h,
      components_of_isAbsolute (by rfl : isAbsolute "/".toList = true)]
    cases hroot : isAbsolute base.toList with
    | false =>
      have hother {c : Components} {path : String} (habs : c.absolute = true)
          (hrel : isAbsolute path.toList = false) : c ≠ components path := by
        rintro rfl
        rw [components_absolute, hrel] at habs
        cases habs
      refine iff_of_false (hother rfl ?_) fun heq => hother rfl hroot heq.symm
      rw [isAbsolute_join base h, hroot]
    | true =>
      have hbelow : proper (names "".toList ++ [name.toList]) =
          proper (names "/".toList) ++ [name.toList] := proper_concat _ hchars
      rw [components_of_isAbsolute (by rw [isAbsolute_join base h, hroot]), names_join base h,
        components_of_isAbsolute hroot, hbelow, proper_concat _ hchars]
      simp only [Components.mk.injEq, true_and, List.append_left_inj]
      exact eq_comm
  · obtain ⟨habs, hnames⟩ :=
      names_resolve_append base hdir (not_isAbsolute_of_isPiece h)
    rw [resolve_of_isPiece _ h] at habs hnames
    exact iff_of_true (same_of_names habs hnames) (.inl hdir)

end Path

end RuntimeLauncher
