import RuntimeLauncher.Proofs.Path.Components

/-!
# Resolving step by step, and in any style

A path that is resolved against a base denotes a place, and it does so independently of two choices.
It may be resolved at once or in two steps, cut at any slash: the second part is resolved where the
first one leads. And if it is known with backslashes, it may be brought into any style before: each
style finds its own separators where the backslashes were.

## Main Definitions

* `Path.backslashNames` — the names of a path with backslashes
* `Style.Suits` — the separator of a style is not taken for another character of a path

## Main Statements

* `Style.resolve_localize` — the place of a path that is brought into a style
* `Style.localized_resolves_alike` — suitable styles agree on it
* `Style.resolve_composes` — resolving at once and in two steps

## Design Notes

Whether a path is absolute is asked of the slash, whatever the style, so a slash inside the path or
a backslash in front of it would be read differently in different styles. Without them the path is
relative in every style. A style whose separator stands in a name would cut that name.
-/

namespace RuntimeLauncher.Path

variable {a b path : String}

/-! ### In any style -/

/-- What stands between the backslashes of a path, where anything does. -/
def backslashNames (path : String) : List String :=
  ((path.toList.splitOn '\\').filter (· ≠ [])).map String.ofList

theorem toList_foldl_join (base : String) (parts : List (List Char)) :
    ((parts.map String.ofList).foldl join base).toList = parts.foldl joinChars base.toList := by
  induction parts generalizing base with
  | nil => rfl
  | cons part rest ih =>
    rw [List.map_cons, List.foldl_cons, ih, join, String.toList_ofList, String.toList_ofList]
    rfl

theorem toList_foldl_backslashNames (base path : String) :
    ((backslashNames path).foldl join base).toList =
      (Text.pieces (· == '\\') path.toList).foldl joinChars base.toList := by
  rw [backslashNames, toList_foldl_join, List.splitOn_eq_splitOnP, Text.pieces_eq_filter]

namespace Style

variable {style : Style}

/-- The separator of the style stands for itself in a path with backslashes: it is the backslash, or
the path does not have it. -/
def Suits (style : Style) (path : String) : Prop :=
  style.dirSeparator = '\\' ∨ style.dirSeparator ∉ path.toList

instance (style : Style) (path : String) : Decidable (style.Suits path) :=
  inferInstanceAs (Decidable (_ ∨ _))

/-- The style cuts the path where the backslashes were. -/
theorem pieces_localize (h : style.Suits path) :
    Text.pieces (· == style.dirSeparator) (style.localize path).toList =
      Text.pieces (· == '\\') path.toList := by
  rw [localize, String.toList_ofList]
  apply Text.pieces_map_eq
  · intro c hc
    show ((if c = '\\' then style.dirSeparator else c) == style.dirSeparator) = (c == '\\')
    by_cases hback : c = '\\'
    · simp [hback]
    · -- The style's separator stands for backslashes alone.
      have hsep : c ≠ style.dirSeparator := by
        obtain hsame | habsent := h
        · rwa [hsame]
        · exact ne_of_mem_of_not_mem hc habsent
      rw [if_neg hback, beq_eq_false_iff_ne.2 hsep, beq_eq_false_iff_ne.2 hback]
  · intro c hc
    exact if_neg (by simpa using hc)

/-- Without slashes and without a backslash in front, a path is relative in every style. -/
theorem not_isAbsolute_localize (hslash : '/' ∉ path.toList)
    (hfront : path.toList.head? ≠ some '\\') (style : Style) :
    isAbsolute (style.localize path).toList = false := by
  rw [localize, String.toList_ofList, isAbsolute, List.head?_map]
  cases hhead : path.toList.head? with
  | none => rfl
  | some c =>
    have hback : c ≠ '\\' := fun hc => hfront (by rw [hhead, hc])
    have hc : c ≠ '/' := ne_of_mem_of_not_mem (List.mem_of_head? hhead) hslash
    simp [hback, hc]

/-- **The place of a path that is brought into a style** is found by joining its names to the
base. -/
theorem resolve_localize (hslash : '/' ∉ path.toList) (hfront : path.toList.head? ≠ some '\\')
    (base : String) (h : style.Suits path) :
    style.resolve base (style.localize path) = (backslashNames path).foldl join base := by
  apply String.toList_inj.1
  rw [style.resolve_of_relative base (not_isAbsolute_localize hslash hfront style),
    pieces_localize h, toList_foldl_backslashNames]

/-- **Suitable styles agree on the place of a path.**  A path without slashes and without a
backslash in front has the same place in every style that suits it, the place that is found by
joining its names to the base. Slashes and backslashes suit it both. -/
theorem localized_resolves_alike (hslash : '/' ∉ path.toList)
    (hfront : path.toList.head? ≠ some '\\') (base : String) :
    (∀ style : Style, style.Suits path →
      style.resolve base (style.localize path) = (backslashNames path).foldl join base) ∧
    (∀ style other : Style, style.Suits path → other.Suits path →
      style.resolve base (style.localize path) = other.resolve base (other.localize path)) ∧
    unix.resolve base (unix.localize path) = windows.resolve base (windows.localize path) := by
  have halike : ∀ style other : Style, style.Suits path → other.Suits path →
      style.resolve base (style.localize path) = other.resolve base (other.localize path) := by
    intro style other h h'
    rw [resolve_localize hslash hfront base h, resolve_localize hslash hfront base h']
  exact ⟨fun style h => resolve_localize hslash hfront base h, halike,
    halike unix windows (.inr hslash) (.inl rfl)⟩

/-- A path with an empty piece, a single dot and a backslash at its end. -/
def windingPath : String := "..\\\\lib\\.\\jxtashell.jar\\"

/-- The winding path has one place in the styles of both systems and in one with a separator of its
own. -/
theorem windingPath_resolves_alike :
    '/' ∉ windingPath.toList ∧ windingPath.toList.head? ≠ some '\\' ∧
      Style.Suits ⟨',', '!'⟩ windingPath ∧
      Style.localize ⟨',', '!'⟩ windingPath = "..!!lib!.!jxtashell.jar!" ∧
      Style.resolve ⟨',', '!'⟩ "/opt/" (Style.localize ⟨',', '!'⟩ windingPath) =
        "/opt/../lib/./jxtashell.jar" ∧
      unix.resolve "/opt/" (unix.localize windingPath) =
        windows.resolve "/opt/" (windows.localize windingPath) := by
  have hslash : '/' ∉ windingPath.toList := by decide
  have hfront : windingPath.toList.head? ≠ some '\\' := by decide
  have hsuits : Style.Suits ⟨',', '!'⟩ windingPath := by decide
  obtain ⟨hplace, -, hboth⟩ := localized_resolves_alike hslash hfront "/opt/"
  exact ⟨hslash, hfront, hsuits, by decide, (hplace _ hsuits).trans (by decide), hboth⟩

/-! ### Step by step -/

/-- **Resolving at once and in two steps.**  A path that is written behind another one with a slash
between, and does not itself start with a slash, is resolved to the same path as if it was resolved
where the first one leads. If the first one does not start with a slash either, the text is the same
as well. Behind an absolute path, only resolving at once keeps the spelling of the second one. -/
theorem resolve_composes (base : String) (hne : a ≠ "") (hb : b.toList.head? ≠ some '/') :
    Same (native.resolve base (a ++ "/" ++ b)) (native.resolve (native.resolve base a) b) ∧
      (a.toList.head? ≠ some '/' →
        native.resolve base (a ++ "/" ++ b) = native.resolve (native.resolve base a) b) := by
  rw [← isAbsolute_eq_false_iff] at hb ⊢
  obtain ⟨habs, hnames⟩ := names_resolve_append base hne hb
  exact ⟨same_of_names habs hnames, fun ha => resolve_append_of_relative base hne ha hb⟩

/-- Both ways behind an absolute path and behind a relative one, with slashes at their ends. -/
theorem resolve_composes_behind_slashes :
    "/opt//lib/" ≠ "" ∧ "..//lib/" ≠ "" ∧ "./x.jar/".toList.head? ≠ some '/' ∧
      native.resolve "" ("/opt//lib/" ++ "/" ++ "./x.jar/") = "/opt//lib//./x.jar/" ∧
      native.resolve (native.resolve "" "/opt//lib/") "./x.jar/" = "/opt//lib/./x.jar" ∧
      Same "/opt//lib//./x.jar/" "/opt//lib/./x.jar" ∧
      "..//lib/".toList.head? ≠ some '/' ∧
      native.resolve "work/" ("..//lib/" ++ "/" ++ "./x.jar/") =
        native.resolve (native.resolve "work/" "..//lib/") "./x.jar/" := by
  have hb : "./x.jar/".toList.head? ≠ some '/' := by decide
  have hwhole : native.resolve "" ("/opt//lib/" ++ "/" ++ "./x.jar/") = "/opt//lib//./x.jar/" := by
    decide
  have hsteps : native.resolve (native.resolve "" "/opt//lib/") "./x.jar/" =
      "/opt//lib/./x.jar" := by
    decide
  have habsolute := (resolve_composes "" (by decide : "/opt//lib/" ≠ "") hb).1
  have hrelative := (resolve_composes "work/" (by decide : "..//lib/" ≠ "") hb).2
  rw [hwhole, hsteps] at habsolute
  exact ⟨by decide, by decide, hb, hwhole, hsteps, habsolute, by decide, hrelative (by decide)⟩

end Style

end RuntimeLauncher.Path
