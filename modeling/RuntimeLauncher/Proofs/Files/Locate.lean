import RuntimeLauncher.Proofs.Files.Walk
import RuntimeLauncher.Proofs.Path.Style

/-!
# Where paths lead

A path leads from the root or from the working directory along the steps for its names. A resolved
path and the relative path that it was made of lead to the same place if the base denotes the
working directory, as far as both lead anywhere: the relative path may end in a slash or be too
long, and resolving mends both.

## Main Definitions

* `FileTree.IsPath` — the texts that are looked at as paths
* `FileTree.Standing` — a process can stand below some names and tell where

## Main Statements

* `locate_ok_iff` — where a path leads, in terms of its steps
* `stat_file_iff` — a regular file is seen exactly at a path that leads to one
* `leads_of_locate_resolve` — a resolved path leads where the names of the relative path lead
* `locate_ok_iff_of_resolve` — whether the relative path itself leads to the file that was found
  for the resolved one
* `locate_placeText` — the text of a place denotes the place
-/

namespace RuntimeLauncher.FileTree

variable {tree : FileTree} {cwd place r : Place} {links : Nat} {base path : String}

/-- The texts that are looked at as paths. -/
structure IsPath (path : String) : Prop where
  not_null : '\x00' ∉ path.toList
  ne_empty : path ≠ ""
  short : path.utf8ByteSize < maxPath

instance (path : String) : Decidable (IsPath path) :=
  decidable_of_iff ('\x00' ∉ path.toList ∧ path ≠ "" ∧ path.utf8ByteSize < maxPath)
    ⟨fun h => ⟨h.1, h.2.1, h.2.2⟩, fun h => ⟨h.not_null, h.ne_empty, h.short⟩⟩

theorem checkPath_ok_iff : checkPath path = .ok () ↔ IsPath path := by
  constructor
  · intro h
    unfold checkPath at h
    split at h
    · cases h
    · split at h
      · cases h
      · split at h
        · cases h
        · exact ⟨by simp_all, by simp_all, by omega⟩
  · rintro ⟨hnull, hne, hshort⟩
    simp [checkPath, hnull, hne, hshort]

/-- Paths that are both absolute, or both relative, go on from the same place. -/
theorem origin_eq {path other : List Char}
    (h : Path.isAbsolute path = Path.isAbsolute other) (place : Place) :
    origin path place = origin other place := by
  have hhead : path.head? = some '/' ↔ other.head? = some '/' := by
    rw [← Path.isAbsolute_iff, ← Path.isAbsolute_iff, h]
  simp only [origin, hhead]

/-- **Where a path leads.** -/
theorem locate_ok_iff : tree.locate true cwd path = .ok r ↔
    IsPath path ∧ tree.Leads maxLinks (origin path.toList cwd) (stepsOf path.toList) r := by
  rw [← checkPath_ok_iff, ← walk_ok_iff_leads, locate]
  cases h : checkPath path with
  | error e => simp [bind, Except.bind]
  | ok _ => simp [bind, Except.bind, origin]

/-- A regular file is seen at a path exactly if the path leads to one. -/
theorem stat_file_iff : tree.stat cwd path = .ok .file ↔ ∃ place content executable,
    tree.locate true cwd path = .ok place ∧
      tree.node? place = some (.file content executable) := by
  simp only [stat, bind, Except.bind]
  cases tree.locate true cwd path with
  | error e => simp
  | ok place =>
    cases hnode : tree.node? place with
    | none => simp [hnode, throw, throwThe, MonadExceptOf.throw]
    | some node =>
      cases node with
      | file content executable =>
        exact iff_of_true (by simp [hnode, kindOf, pure, Except.pure])
          ⟨place, content, executable, rfl, hnode⟩
      | directory => simp [hnode, kindOf, pure, Except.pure]
      | link target => simp [hnode, kindOf, pure, Except.pure]

/-- The steps of a path are those for its names, and one more for a slash at its end. -/
theorem stepsOf_eq (path : List Char) : stepsOf path =
    (Path.names path).map Step.ofName ++ if path.getLast? = some '/' then [.here] else [] := by
  rw [stepsOf, Path.names]
  split <;> simp

/-- A slash at the end of a path does not change where it leads. -/
theorem Leads.names {path : List Char} (h : tree.Leads links place (stepsOf path) r) :
    tree.Leads links place ((Path.names path).map Step.ofName) r := by
  rw [stepsOf_eq] at h
  obtain ⟨q, hnames, hend⟩ := h.split
  split at hend
  · obtain ⟨rfl, -⟩ := leads_here_iff.1 hend
    exact hnames
  · cases hend
    exact hnames

/-- A path that ends in a name does not end in a slash. -/
theorem getLast?_ne_slash {name : List Char} (h : Text.IsPiece (· == '/') name)
    (front : List Char) : (front ++ name).getLast? ≠ some '/' := by
  intro hslash
  rw [List.getLast?_append] at hslash
  cases hlast : name.getLast? with
  | none => exact h.1 (List.getLast?_eq_none_iff.1 hlast)
  | some c =>
    have hc : c = '/' := by simpa [hlast] using hslash
    simpa [hc] using h.2 c (List.mem_of_getLast? hlast)

/-! ### Resolved paths -/

/-- **A resolved path leads where the names of the relative path lead,** if the base denotes the
working directory. -/
theorem leads_of_locate_resolve (hbase : tree.locate true cwd base = .ok cwd)
    (hrel : Path.isAbsolute path.toList = false)
    (h : tree.locate true cwd (Path.Style.native.resolve base path) = .ok r) :
    '\x00' ∉ path.toList ∧
      tree.Leads maxLinks cwd ((Path.names path.toList).map Step.ofName) r := by
  obtain ⟨hbasePath, hbaseLeads⟩ := locate_ok_iff.1 hbase
  obtain ⟨hpath, hleads⟩ := locate_ok_iff.1 h
  refine ⟨fun hnull => hpath.not_null (Path.Style.mem_resolve base hrel hnull (by decide)), ?_⟩
  -- Both walks start at the same place.
  have horigin : origin (Path.Style.native.resolve base path).toList cwd =
      origin base.toList cwd := origin_eq (Path.Style.isAbsolute_resolve base hrel) cwd
  have hleads := hleads.names
  rw [horigin, Path.Style.names_resolve base hrel, List.map_append] at hleads
  obtain ⟨q, hfirst, hrest⟩ := hleads.split
  obtain rfl : q = cwd := hfirst.unique hbaseLeads.names
  exact hrest

/-- **Whether a relative path leads to the file that was found for the resolved one.** It does so
exactly if it has no slash at its end and is not too long. -/
theorem locate_ok_iff_of_resolve (hbase : tree.locate true cwd base = .ok cwd)
    (hne : path ≠ "") (h : tree.locate true cwd (Path.Style.native.resolve base path) = .ok r)
    (hfile : tree.isDirectory r = false) :
    tree.locate true cwd path = .ok r ↔
      path.toList.getLast? ≠ some '/' ∧ path.utf8ByteSize < maxPath := by
  -- A slash at the end asks for a directory, and a file was found.
  have hopen {links : Nat} {place : Place}
      (hleads : tree.Leads links place (stepsOf path.toList) r) :
      path.toList.getLast? ≠ some '/' := by
    intro hlast
    rw [stepsOf_eq, if_pos hlast] at hleads
    obtain ⟨q, -, hend⟩ := hleads.split
    obtain ⟨rfl, hdir⟩ := leads_here_iff.1 hend
    exact absurd hdir (by simp [hfile])
  cases habs : Path.isAbsolute path.toList with
  | true =>
    rw [Path.Style.resolve_of_isAbsolute _ _ habs] at h
    obtain ⟨hpath, hleads⟩ := locate_ok_iff.1 h
    exact iff_of_true h ⟨hopen hleads, hpath.short⟩
  | false =>
    obtain ⟨hnull, hleads⟩ := leads_of_locate_resolve hbase habs h
    rw [locate_ok_iff]
    constructor
    · rintro ⟨hpath, hraw⟩
      exact ⟨hopen hraw, hpath.short⟩
    · rintro ⟨hlast, hshort⟩
      have horigin : origin path.toList cwd = cwd := if_neg (by simpa [Path.isAbsolute] using habs)
      refine ⟨⟨hnull, hne, hshort⟩, ?_⟩
      rw [horigin, stepsOf_eq, if_neg hlast, List.append_nil]
      exact hleads

/-! ### The text of a place -/

/-- A name that a path can hold and that leads down. -/
structure IsName (name : String) : Prop where
  piece : Text.IsPiece (· == '/') name.toList
  not_null : '\x00' ∉ name.toList
  not_here : name.toList ≠ ['.']
  not_up : name.toList ≠ ['.', '.']
  short : name.utf8ByteSize ≤ maxName

instance (name : String) : Decidable (IsName name) :=
  decidable_of_iff (name.toList ≠ [] ∧ '/' ∉ name.toList ∧ '\x00' ∉ name.toList ∧
      name.toList ≠ ['.'] ∧ name.toList ≠ ['.', '.'] ∧ name.utf8ByteSize ≤ maxName)
    ⟨fun ⟨hne, hslash, hnull, hhere, hup, hshort⟩ =>
      ⟨⟨hne, fun _ hc => beq_false_of_ne (ne_of_mem_of_not_mem hc hslash)⟩, hnull, hhere, hup,
        hshort⟩,
      fun h => ⟨h.piece.1, fun hslash => absurd (h.piece.2 _ hslash) (by decide), h.not_null,
        h.not_here, h.not_up, h.short⟩⟩

/-- A process can stand below these names and tell where: there are directories all the way, and
the text of the place is not too long. -/
structure Standing (tree : FileTree) (names : List String) : Prop where
  directory : ∀ front rest, front ++ rest = names.map Octets.text → tree.isDirectory front = true
  named : ∀ name ∈ names, IsName name
  short : (placeText (names.map Octets.text)).utf8ByteSize < maxPath

/-- Directories lead down along their names. -/
theorem leads_down {front rest : Place}
    (hdir : ∀ a b, a ++ b = front ++ rest → tree.isDirectory a = true)
    (hname : ∀ name ∈ rest, name.size ≤ maxName) :
    tree.Leads links front (rest.map Step.down) (front ++ rest) := by
  induction rest generalizing front with
  | nil =>
    rw [List.append_nil]
    exact .done links front
  | cons name rest ih =>
    have hsplit : front ++ name :: rest = front ++ [name] ++ rest := by simp
    have hnode : tree.node? (front ++ [name]) = some .directory := by
      simpa [isDirectory] using hdir (front ++ [name]) rest hsplit.symm
    rw [hsplit] at hdir ⊢
    exact .down (hdir front (name :: rest) hsplit) (hname name List.mem_cons_self) hnode nofun
      (ih hdir fun other hother => hname other (List.mem_cons_of_mem _ hother))

/-- The text of a place has a slash in front of each name. -/
theorem toList_placeText {names : List String} (hne : names ≠ []) :
    (placeText (names.map Octets.text)).toList =
      (names.map String.toList).flatMap ('/' :: ·) := by
  have hplace : (names.map Octets.text).isEmpty = false := by simpa using hne
  rw [placeText, if_neg (by simp [hplace]), String.toList_join]
  simp [List.flatMap_map, Function.comp_def, Octets.text?]

theorem IsName.ofName_eq {name : String} (h : IsName name) :
    Step.ofName name.toList = .down (.text name) := by
  rw [Step.ofName, if_neg h.not_here, if_neg h.not_up, String.ofList_toList]

/-- The steps along the text of a place lead down its names. -/
theorem stepsOf_placeText {names : List String} (hne : names ≠ [])
    (hnames : ∀ name ∈ names, IsName name) :
    stepsOf (placeText (names.map Octets.text)).toList =
      (names.map Octets.text).map Step.down := by
  have hpieces : ∀ part ∈ names.map String.toList, Text.IsPiece (· == '/') part := by
    intro part hpart
    obtain ⟨name, hname, rfl⟩ := List.mem_map.1 hpart
    exact (hnames name hname).piece
  have hlast : ((names.map String.toList).flatMap ('/' :: ·)).getLast? ≠ some '/' := by
    obtain ⟨front, last, rfl⟩ : ∃ front last, names = front ++ [last] :=
      ⟨_, _, (List.dropLast_concat_getLast hne).symm⟩
    obtain ⟨hlastNe, hlastSlash⟩ := (hnames last (by simp)).piece
    obtain ⟨start, c, hc⟩ : ∃ start c, last.toList = start ++ [c] :=
      ⟨_, _, (List.dropLast_concat_getLast hlastNe).symm⟩
    have hslash : c ≠ '/' := by simpa using hlastSlash c (by simp [hc])
    have hend : ('/' :: (start ++ [c])).getLast? = some c := by
      rw [← List.cons_append, List.getLast?_concat]
    simpa [hc, hend] using hslash
  have hread : Path.names ((names.map String.toList).flatMap ('/' :: ·)) =
      names.map String.toList := Path.names_append_flatMap [] hpieces
  rw [toList_placeText hne, stepsOf_eq, if_neg hlast, hread, List.append_nil, List.map_map,
    List.map_map]
  exact List.map_congr_left fun name hname => (hnames name hname).ofName_eq

/-- **The text of a place denotes the place,** if a process can stand there. -/
theorem locate_placeText {names : List String} (h : tree.Standing names) (cwd : Place) :
    tree.locate true cwd (placeText (names.map Octets.text)) = .ok (names.map Octets.text) := by
  by_cases hne : names = []
  · subst hne
    exact locate_ok_iff.2 ⟨⟨by decide, by decide, by decide⟩, .here rfl (.done _ _)⟩
  · have htext := toList_placeText hne
    obtain ⟨first, rest, rfl⟩ := List.exists_cons_of_ne_nil hne
    refine locate_ok_iff.2 ⟨⟨?_, ?_, h.short⟩, ?_⟩
    · rw [htext]
      intro hnull
      obtain ⟨part, hpart, hmem⟩ := List.mem_flatMap.1 hnull
      obtain ⟨name, hname, rfl⟩ := List.mem_map.1 hpart
      obtain hslash | hmem := List.mem_cons.1 hmem
      · exact absurd hslash (by decide)
      · exact (h.named name hname).not_null hmem
    · intro hempty
      rw [hempty] at htext
      simp at htext
    · have horigin : origin (placeText ((first :: rest).map Octets.text)).toList cwd = [] := by
        rw [htext]
        rfl
      rw [horigin, stepsOf_placeText hne h.named]
      refine leads_down h.directory ?_
      intro name hname
      obtain ⟨text, htext, rfl⟩ := List.mem_map.1 hname
      exact (h.named text htext).short

end RuntimeLauncher.FileTree
