import RuntimeLauncher.Text.Pieces

/-!
# Cutting and joining are inverse on proper pieces

A text is cut into pieces at its separators, and pieces are joined with a separator between
neighbours. Both directions are determined by one equation each: a cut at a separator cuts the two
sides apart (`pieces_append_sep`), and joining two rows of pieces puts one separator between them
(`joinWith_append`).

## Main Statements

* `splitBy_eq_splitOnP`, `pieces_eq_filter` — cutting is the library's operation
* `pieces_map_eq` — the pieces do not tell how the separators are spelled
* `joinWith_splitBy` — a text is joined again from what it is cut into
* `nil_mem_splitBy_iff` — where an empty piece is read
* `append_sep_inj` — a text is taken apart at its last separator in one way
* `pieces_joinWith` — pieces are read back from the joined text
* `mem_splitBy_joinWith` — a part without separators is read back beside any others
* `splitBy_joinWith_eq_iff`, `length_lt_splitBy_joinWith_iff` — a row of parts is read back if none
  holds a separator, and more pieces are read back otherwise
* `joinWith_inj` — proper pieces are determined by the joined text
* `joinWith_sep_prefix_iff` — the joined text goes on with a separator exactly below proper prefixes

## Design Notes

`IsPiece` is what cutting guarantees of a piece and what joining needs of one. A prefix of the
joined text may end inside a piece; the separator behind it is what rules that out.
-/

namespace RuntimeLauncher.Text

variable {isSep : Char → Bool} {sep : Char}

/-- A piece is not empty and holds no separator. -/
def IsPiece (isSep : Char → Bool) (p : List Char) : Prop := p ≠ [] ∧ ∀ c ∈ p, isSep c = false

/-! ### Cutting -/

theorem splitBy_eq_splitOnP (isSep : Char → Bool) (cs : List Char) :
    splitBy isSep cs = cs.splitOnP isSep := by
  induction cs with
  | nil => rfl
  | cons c cs ih =>
    rw [splitBy, List.splitOnP_cons_eq_if_modifyHead, ih]
    split
    · rfl
    · obtain ⟨p, ps, hps⟩ := List.exists_cons_of_ne_nil (List.splitOnP_ne_nil isSep cs)
      rw [hps]
      rfl

theorem pieces_eq_filter (isSep : Char → Bool) (cs : List Char) :
    pieces isSep cs = (cs.splitOnP isSep).filter (· ≠ []) := by
  rw [pieces, splitBy_eq_splitOnP]
  exact List.filter_congr fun p _ => by cases p <;> rfl

/-- Without a separator nothing is cut. -/
theorem splitBy_eq_self {p : List Char} (h : ∀ c ∈ p, isSep c = false) : splitBy isSep p = [p] := by
  rw [splitBy_eq_splitOnP, List.splitOnP_eq_singleton h]

/-- There is one piece more than there are separators. -/
theorem length_splitBy (isSep : Char → Bool) (cs : List Char) :
    (splitBy isSep cs).length = cs.countP isSep + 1 := by
  induction cs with
  | nil => rfl
  | cons c cs ih =>
    rw [splitBy, List.countP_cons]
    split
    · rw [List.length_cons, ih]
    · obtain ⟨p, ps, hps⟩ := List.exists_cons_of_ne_nil (splitBy_ne_nil isSep cs)
      rw [hps] at ih ⊢
      exact ih

/-- A cut does not see a change of characters that keeps the separators apart from the others. -/
theorem splitBy_map {isSep' : Char → Bool} {f : Char → Char} {cs : List Char}
    (hf : ∀ c ∈ cs, isSep' (f c) = isSep c) :
    splitBy isSep' (cs.map f) = (splitBy isSep cs).map (List.map f) := by
  induction cs with
  | nil => rfl
  | cons c cs ih =>
    obtain ⟨hc, hcs⟩ := List.forall_mem_cons.1 hf
    rw [List.map_cons, splitBy, splitBy, hc, ih hcs]
    split
    · rfl
    · obtain ⟨p, ps, hps⟩ := List.exists_cons_of_ne_nil (splitBy_ne_nil isSep cs)
      rw [hps]
      rfl

/-- The pieces of the changed text are the changed pieces. -/
theorem pieces_map {isSep' : Char → Bool} {f : Char → Char} {cs : List Char}
    (hf : ∀ c ∈ cs, isSep' (f c) = isSep c) :
    pieces isSep' (cs.map f) = (pieces isSep cs).map (List.map f) := by
  rw [pieces, pieces, splitBy_map hf, List.filter_map]
  simp only [Function.comp_def, List.isEmpty_map]

/-- **Pieces do not tell how the separators are spelled.**  Where only separators are changed, and
into the separators of another cut, that cut gives the same pieces. -/
theorem pieces_map_eq {isSep' : Char → Bool} {f : Char → Char} {cs : List Char}
    (hf : ∀ c ∈ cs, isSep' (f c) = isSep c) (hkeep : ∀ c, isSep c = false → f c = c) :
    pieces isSep' (cs.map f) = pieces isSep cs := by
  rw [pieces_map hf]
  refine (List.map_congr_left fun p hp => ?_).trans (List.map_id _)
  have hfree : ∀ c ∈ p, isSep c = false := fun c hc =>
    not_sep_of_mem_splitBy isSep (List.mem_filter.1 hp).1 hc
  exact (List.map_congr_left fun c hc => hkeep c (hfree c hc)).trans (List.map_id p)

/-- A cut at a separator cuts both sides apart. -/
theorem splitBy_append_sep {c : Char} (hc : isSep c = true) (a b : List Char) :
    splitBy isSep (a ++ c :: b) = splitBy isSep a ++ splitBy isSep b := by
  simp only [splitBy_eq_splitOnP, List.splitOnP_append_cons a b hc]

/-- **Pieces split at a separator.**  The other facts about `pieces` follow from this one. -/
theorem pieces_append_sep {c : Char} (hc : isSep c = true) (a b : List Char) :
    pieces isSep (a ++ c :: b) = pieces isSep a ++ pieces isSep b := by
  rw [pieces, splitBy_append_sep hc, List.filter_append]
  rfl

theorem isPiece_of_mem_pieces {cs p : List Char} (hp : p ∈ pieces isSep cs) :
    IsPiece isSep p :=
  ⟨ne_nil_of_mem_pieces hp,
    fun _ hc => not_sep_of_mem_splitBy isSep (List.mem_filter.1 hp).1 hc⟩

/-- A piece is cut into itself. -/
theorem IsPiece.pieces_eq {p : List Char} (h : IsPiece isSep p) : pieces isSep p = [p] := by
  rw [pieces, splitBy_eq_self h.2]
  simp [h.1]

/-- Every character of a text is a separator or stands in a piece. -/
theorem mem_pieces_of_mem {cs : List Char} {c : Char} (hc : c ∈ cs) (hsep : isSep c = false) :
    ∃ p ∈ pieces isSep cs, c ∈ p := by
  induction hn : cs.length using Nat.strongRecOn generalizing cs with
  | ind n ih =>
    by_cases hall : ∀ d ∈ cs, isSep d = false
    · have hpiece : IsPiece isSep cs := ⟨List.ne_nil_of_mem hc, hall⟩
      exact ⟨cs, by simp [hpiece.pieces_eq], hc⟩
    · -- Some separator divides the text, and the character stands on one side of it.
      obtain ⟨d, hd, hdsep⟩ : ∃ d ∈ cs, isSep d = true := by simpa using hall
      obtain ⟨a, b, rfl⟩ := List.append_of_mem hd
      rw [pieces_append_sep hdsep]
      have hcd : c ≠ d := by rintro rfl; simp [hsep] at hdsep
      have hside : c ∈ a ∨ c ∈ b := by simpa [hcd] using hc
      simp only [List.length_append, List.length_cons] at hn
      rcases hside with ha | hb
      · obtain ⟨p, hp, hcp⟩ := ih a.length (by omega) ha rfl
        exact ⟨p, List.mem_append_left _ hp, hcp⟩
      · obtain ⟨p, hp, hcp⟩ := ih b.length (by omega) hb rfl
        exact ⟨p, List.mem_append_right _ hp, hcp⟩

/-- A text has one front and one rest around its last separator. -/
theorem append_sep_inj {a a' b b' : List Char} (hb : sep ∉ b) (hb' : sep ∉ b') :
    a ++ sep :: b = a' ++ sep :: b' ↔ a = a' ∧ b = b' := by
  refine ⟨fun h => ?_, by rintro ⟨rfl, rfl⟩; rfl⟩
  -- One front goes at least as far as the other, and no separator stands in what it has more.
  obtain ⟨more, rfl, hmore⟩ | ⟨more, rfl, hmore⟩ := List.append_eq_append_iff.1 h
  · cases more with
    | nil => exact ⟨(List.append_nil a).symm, (List.cons.inj hmore).2⟩
    | cons c rest =>
      obtain ⟨-, rfl⟩ := List.cons.inj hmore
      simp at hb
  · cases more with
    | nil => exact ⟨List.append_nil a', (List.cons.inj hmore).2.symm⟩
    | cons c rest =>
      obtain ⟨-, rfl⟩ := List.cons.inj hmore
      simp at hb'

/-! ### Joining -/

theorem joinWith_eq_intercalate (sep : Char) (ps : List (List Char)) :
    joinWith sep ps = [sep].intercalate ps := by
  induction ps with
  | nil => rfl
  | cons p ps ih =>
    cases ps with
    | nil => simp [joinWith]
    | cons q qs =>
      rw [joinWith, ih, List.intercalate_cons_cons, List.append_assoc, List.singleton_append]

/-- A text is joined again from all that it is cut into. -/
theorem joinWith_splitBy (sep : Char) (cs : List Char) :
    joinWith sep (splitBy (· == sep) cs) = cs := by
  rw [joinWith_eq_intercalate, splitBy_eq_splitOnP, ← List.splitOn_eq_splitOnP]
  exact List.intercalate_splitOn sep

/-- A joined text has the characters of its parts, and separators. -/
theorem mem_joinWith {ps : List (List Char)} {c : Char} (hc : c ∈ joinWith sep ps) :
    c = sep ∨ ∃ p ∈ ps, c ∈ p := by
  induction ps with
  | nil => cases hc
  | cons p ps ih =>
    cases ps with
    | nil => exact .inr ⟨p, List.mem_cons_self, hc⟩
    | cons q qs =>
      obtain hp | hrest := List.mem_append.1 hc
      · exact .inr ⟨p, List.mem_cons_self, hp⟩
      · obtain rfl | hrest := List.mem_cons.1 hrest
        · exact .inl rfl
        · obtain rfl | ⟨r, hr, hcr⟩ := ih hrest
          · exact .inl rfl
          · exact .inr ⟨r, List.mem_cons_of_mem _ hr, hcr⟩

/-- A change of characters can be made before joining or after. -/
theorem map_joinWith (f : Char → Char) (sep : Char) (ps : List (List Char)) :
    (joinWith sep ps).map f = joinWith (f sep) (ps.map (List.map f)) := by
  induction ps with
  | nil => rfl
  | cons p ps ih =>
    cases ps with
    | nil => rfl
    | cons q qs =>
      rw [joinWith, List.map_append, List.map_cons, ih]
      rfl

/-- One separator stands between the texts of two rows of pieces. -/
theorem joinWith_append {ps qs : List (List Char)} (hps : ps ≠ []) (hqs : qs ≠ []) :
    joinWith sep (ps ++ qs) = joinWith sep ps ++ sep :: joinWith sep qs := by
  induction ps with
  | nil => exact absurd rfl hps
  | cons p ps ih =>
    cases ps with
    | nil =>
      obtain ⟨q, qs, rfl⟩ := List.exists_cons_of_ne_nil hqs
      rfl
    | cons p' ps =>
      change p ++ sep :: joinWith sep (p' :: ps ++ qs) = _
      rw [ih (by simp)]
      simp [joinWith]

/-- A joined text is cut where its parts are cut. -/
theorem splitBy_joinWith (hsep : isSep sep = true) {ps : List (List Char)} (hps : ps ≠ []) :
    splitBy isSep (joinWith sep ps) = ps.flatMap (splitBy isSep) := by
  induction ps with
  | nil => exact absurd rfl hps
  | cons p ps ih =>
    cases ps with
    | nil => simp [joinWith]
    | cons q qs =>
      rw [joinWith, splitBy_append_sep hsep, ih (by simp)]
      exact List.flatMap_cons.symm

/-- **An empty piece is read where a separator has nothing on one side:** at the front, at the end,
or beside another separator. -/
theorem nil_mem_splitBy_iff {cs : List Char} (hcs : cs ≠ []) :
    [] ∈ splitBy (· == sep) cs ↔
      cs.head? = some sep ∨ cs.getLast? = some sep ∨ [sep, sep] <:+: cs := by
  constructor
  · intro hnil
    -- The text is joined again from what is read before the empty piece and behind it.
    obtain ⟨before, after, hcut⟩ := List.append_of_mem hnil
    have htext : cs = joinWith sep (before ++ [] :: after) := by rw [← hcut, joinWith_splitBy]
    by_cases hbefore : before = []
    · subst hbefore
      cases after with
      | nil => exact absurd htext hcs
      | cons p ps => exact .inl (by rw [htext]; rfl)
    · rw [joinWith_append hbefore (List.cons_ne_nil _ _)] at htext
      right
      cases after with
      | nil => exact .inl (by rw [htext]; simp [joinWith])
      | cons p ps =>
        exact .inr ⟨joinWith sep before, joinWith sep (p :: ps), by rw [htext]; simp [joinWith]⟩
  · have hcut (a b : List Char) : splitBy (· == sep) (a ++ sep :: b) =
        splitBy (· == sep) a ++ splitBy (· == sep) b :=
      @splitBy_append_sep (· == sep) sep (beq_self_eq_true sep) a b
    rintro (hfront | hback | ⟨a, b, rfl⟩)
    · obtain ⟨rest, rfl⟩ := List.head?_eq_some_iff.1 hfront
      change [] ∈ splitBy (· == sep) ([] ++ sep :: rest)
      rw [hcut]
      exact List.mem_append_left _ (List.mem_singleton_self _)
    · obtain ⟨front, rfl⟩ := List.getLast?_eq_some_iff.1 hback
      rw [hcut]
      exact List.mem_append_right _ (List.mem_singleton_self _)
    · have htext : a ++ [sep, sep] ++ b = (a ++ [sep]) ++ sep :: b := by simp
      rw [htext, hcut, hcut]
      simp [splitBy]

/-- A part without separators is read back as it is, whatever the other parts are. -/
theorem mem_splitBy_joinWith (hsep : isSep sep = true) {ps : List (List Char)} {p : List Char}
    (hp : p ∈ ps) (hfree : ∀ c ∈ p, isSep c = false) :
    p ∈ splitBy isSep (joinWith sep ps) := by
  rw [splitBy_joinWith hsep (List.ne_nil_of_mem hp)]
  exact List.mem_flatMap.2 ⟨p, hp, by simp [splitBy_eq_self hfree]⟩

/-- Joining loses no part, and each separator inside one makes one piece more. -/
theorem length_splitBy_joinWith (hsep : isSep sep = true) {ps : List (List Char)} (hps : ps ≠ []) :
    (splitBy isSep (joinWith sep ps)).length = ps.length + ps.flatten.countP isSep := by
  rw [splitBy_joinWith hsep hps]
  clear hps
  induction ps with
  | nil => rfl
  | cons p ps ih =>
    rw [List.flatMap_cons, List.length_append, length_splitBy, ih, List.flatten_cons,
      List.countP_append, List.length_cons]
    omega

/-- **A row of parts is read back exactly if none holds a separator.** -/
theorem splitBy_joinWith_eq_iff (hsep : isSep sep = true) {ps : List (List Char)} (hps : ps ≠ []) :
    splitBy isSep (joinWith sep ps) = ps ↔ ∀ p ∈ ps, ∀ c ∈ p, isSep c = false := by
  constructor
  · intro h p hp c hc
    rw [← h] at hp
    exact not_sep_of_mem_splitBy isSep hp hc
  · intro h
    rw [splitBy_joinWith hsep hps]
    clear hps
    induction ps with
    | nil => rfl
    | cons p ps ih =>
      obtain ⟨hp, hrest⟩ := List.forall_mem_cons.1 h
      rw [List.flatMap_cons, splitBy_eq_self hp, ih hrest]
      rfl

/-- **Other rows are read back with more pieces than there were parts.** -/
theorem length_lt_splitBy_joinWith_iff (hsep : isSep sep = true) {ps : List (List Char)}
    (hps : ps ≠ []) :
    ps.length < (splitBy isSep (joinWith sep ps)).length ↔ ∃ p ∈ ps, ∃ c ∈ p, isSep c = true := by
  rw [length_splitBy_joinWith hsep hps, Nat.lt_add_right_iff_pos, List.countP_pos_iff]
  constructor
  · rintro ⟨c, hc, hcsep⟩
    obtain ⟨p, hp, hcp⟩ := List.mem_flatten.1 hc
    exact ⟨p, hp, c, hcp, hcsep⟩
  · rintro ⟨p, hp, c, hcp, hcsep⟩
    exact ⟨c, List.mem_flatten.2 ⟨p, hp, hcp⟩, hcsep⟩

/-- **Pieces are read back from the joined text.** -/
theorem pieces_joinWith (hsep : isSep sep = true) {ps : List (List Char)}
    (hps : ∀ p ∈ ps, IsPiece isSep p) : pieces isSep (joinWith sep ps) = ps := by
  induction ps with
  | nil => rfl
  | cons p ps ih =>
    have hp : IsPiece isSep p := hps p (by simp)
    have hrest : pieces isSep (joinWith sep ps) = ps :=
      ih fun q hq => hps q (List.mem_cons_of_mem _ hq)
    cases ps with
    | nil => exact hp.pieces_eq
    | cons q qs => rw [joinWith, pieces_append_sep hsep, hp.pieces_eq, hrest]; rfl

/-- Proper pieces are determined by the joined text. -/
theorem joinWith_inj (hsep : isSep sep = true) {ps qs : List (List Char)}
    (hps : ∀ p ∈ ps, IsPiece isSep p) (hqs : ∀ q ∈ qs, IsPiece isSep q) :
    joinWith sep ps = joinWith sep qs ↔ ps = qs := by
  constructor
  · intro h
    rw [← pieces_joinWith hsep hps, h, pieces_joinWith hsep hqs]
  · rintro rfl
    rfl

/-- **The joined text goes on with a separator exactly below proper prefixes.** -/
theorem joinWith_sep_prefix_iff (hsep : isSep sep = true) {ps qs : List (List Char)}
    (hps : ∀ p ∈ ps, IsPiece isSep p) (hqs : ∀ q ∈ qs, IsPiece isSep q) (hne : ps ≠ []) :
    joinWith sep ps ++ [sep] <+: joinWith sep qs ↔ ps <+: qs ∧ ps ≠ qs := by
  constructor
  · rintro ⟨rest, h⟩
    have htext : joinWith sep qs = joinWith sep ps ++ sep :: rest := by simpa using h.symm
    have hcut : qs = ps ++ pieces isSep rest := by
      rw [← pieces_joinWith hsep hqs, htext, pieces_append_sep hsep, pieces_joinWith hsep hps]
    refine ⟨⟨_, hcut.symm⟩, ?_⟩
    rintro rfl
    simp at htext
  · rintro ⟨⟨rest, rfl⟩, hproper⟩
    have hrest : rest ≠ [] := by rintro rfl; simp at hproper
    exact ⟨joinWith sep rest, by simp [joinWith_append hne hrest]⟩

end RuntimeLauncher.Text
