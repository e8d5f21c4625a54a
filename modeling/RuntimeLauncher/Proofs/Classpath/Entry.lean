import RuntimeLauncher.Proofs.Classpath
import RuntimeLauncher.Proofs.Files.Listing

/-!
# Where the entries of a class path lead

A scan resolves a directory and finds archives in it. The entry for an archive is written from the
directory as the settings spell it, and the runtime resolves that entry once more. It finds the
archive again, unless the directory is spelled by the empty text.

## Main Definitions

* `Files.ListsNames` — listings hold names and not paths
* `Classpath.Finds` — a scan of a directory finds an archive of some name

## Main Statements

* `mem_found_iff` — the entries of a scan by the archives that it finds
* `FileTree.locate_below_iff` — an entry leads to the file that the scan saw
* `entry_locates_archive_iff` — for which directories the entries lead to the archives
* `entry_misses_archive_of_empty_dir` — a class path whose entry leads elsewhere

## Design Notes

An entry that is resolved may have one slash more than the path that the scan looked at. So it can
be too long for a path where the other is not, and `locate_below_iff` supposes that it is a path.
-/

namespace RuntimeLauncher

/-- A listing holds the names of files, and no name has a slash. -/
def Files.ListsNames (files : Files) : Prop :=
  ∀ path listing, files.list path = .ok listing → ∀ entry ∈ listing, ∀ name,
    entry.name = .text name → '/' ∉ name.toList

namespace FileTree

variable {tree : FileTree} {cwd r : Place} {base dir name : String}

/-- A tree whose places are made of names lists names. -/
theorem view_listsNames (h : ∀ node ∈ tree.nodes, ∀ name, .text name ∈ node.1 → '/' ∉ name.toList)
    (cwd : Place) : (tree.view cwd).ListsNames := by
  intro path listing hlist entry hentry name hname
  have hlist : tree.list cwd path = .ok listing := hlist
  obtain ⟨place, node, hnode, -⟩ := exists_of_mem_list hlist hentry
  exact h _ hnode name (hname ▸ List.mem_append_right place List.mem_cons_self)

/-- A slash at the end of a directory may be doubled in front of a name. -/
theorem locate_doubled_slash_iff (hopen : dir.toList.getLast? = some '/')
    (h : Text.IsPiece (· == '/') name.toList) (hpath : IsPath (dir ++ "/" ++ name)) :
    tree.locate true cwd (dir ++ "/" ++ name) = .ok r ↔
      tree.locate true cwd (dir ++ name) = .ok r := by
  obtain ⟨front, hfront⟩ := List.getLast?_eq_some_iff.1 hopen
  have hdir : dir.toList ≠ [] := by simp [hfront]
  have hne : dir ≠ "" := by
    rintro rfl
    exact hdir rfl
  have hshort : IsPath (dir ++ name) := by
    refine ⟨fun hnull => hpath.not_null ?_, by simp [hne], ?_⟩
    · simp only [String.toList_append, List.mem_append] at hnull ⊢
      exact hnull.elim (.inl ∘ .inl) .inr
    · have hsize := hpath.short
      simp only [String.utf8ByteSize_append] at hsize ⊢
      omega
  -- Both texts start in the same way and have the same names, and neither ends in a slash.
  have horigin : origin (dir ++ "/" ++ name).toList cwd = origin (dir ++ name).toList cwd := by
    refine origin_eq ?_ cwd
    rw [Path.isAbsolute_append_slash hne, String.toList_append, Path.isAbsolute_append hdir]
  have hnames : Path.names (dir ++ "/" ++ name).toList = Path.names (dir ++ name).toList := by
    have hcut : (dir ++ name).toList = front ++ '/' :: name.toList := by simp [hfront]
    rw [Path.names_below dir h, hcut, hfront, Path.names_append_slash, Path.names_append_slash,
      Path.names_of_isPiece h, Path.names_nil, List.append_nil]
  have hlast : (dir ++ "/" ++ name).toList.getLast? ≠ some '/' := by
    rw [String.toList_append]
    exact getLast?_ne_slash h _
  have hlast' : (dir ++ name).toList.getLast? ≠ some '/' := by
    rw [String.toList_append]
    exact getLast?_ne_slash h _
  rw [locate_ok_iff, locate_ok_iff, horigin, stepsOf_eq, stepsOf_eq, hnames, if_neg hlast,
    if_neg hlast']
  exact and_congr_left fun _ => iff_of_true hpath hshort

/-- **The file that a scan saw is found through its entry.** -/
theorem locate_below_iff (hne : dir ≠ "") (h : Text.IsPiece (· == '/') name.toList)
    (hpath : IsPath (Path.Style.native.resolve base (dir ++ "/" ++ name))) :
    tree.locate true cwd (Path.Style.native.resolve base (dir ++ "/" ++ name)) = .ok r ↔
      tree.locate true cwd (Path.join (Path.Style.native.resolve base dir) name) = .ok r := by
  cases habs : Path.isAbsolute dir.toList with
  | false => rw [Path.Style.resolve_below_of_relative base hne habs h]
  | true =>
    obtain ⟨hentry, hjoin⟩ := Path.Style.resolve_below_of_isAbsolute base habs h
    rw [hentry] at hpath ⊢
    rw [hjoin]
    split
    · rename_i hopen
      have hchars : dir.toList ≠ [] := by simpa using hne
      exact locate_doubled_slash_iff ((Path.isOpen_iff.1 hopen).resolve_left hchars) h hpath
    · rfl

end FileTree

namespace Classpath

/-! ### What a scan finds -/

/-- The scan of a directory finds an archive of this name. -/
def Finds (files : Files) (base : String) (style : Path.Style) (extension dir name : String) :
    Prop :=
  ∃ listing, files.list (style.resolve base dir) = .ok listing ∧
    ∃ entry ∈ listing, archiveName? extension entry = some name

variable {files : Files} {base extension dir name : String} {style : Path.Style}

/-- The entries of a scan are those of the archives that it finds. -/
theorem mem_found_iff {entry : String} : entry ∈ found files base style extension dir ↔
    ∃ name, Finds files base style extension dir name ∧ entry = entryText style dir name := by
  unfold found Finds
  cases files.list (style.resolve base dir) with
  | error failure => simp
  | ok listing =>
    simp only [archives, List.mem_map, List.mem_filterMap, Except.ok.injEq, exists_eq_left']
    constructor
    · rintro ⟨name, hname, rfl⟩
      exact ⟨name, hname, rfl⟩
    · rintro ⟨name, hname, rfl⟩
      exact ⟨name, hname, rfl⟩

theorem ne_nil_of_hasExtension (h : Path.hasExtension name extension = true) :
    name.toList ≠ [] := by
  intro hnil
  simp [Path.hasExtension, hnil, Path.extension?] at h

theorem ne_dot_of_hasExtension (h : Path.hasExtension name extension = true) : name ≠ "." := by
  rintro rfl
  simp [Path.hasExtension, Path.extension?] at h

/-- An archive is no directory, and is named by a text that has the extension. -/
theorem archiveName?_eq_some_iff {entry : Files.Entry} :
    archiveName? extension entry = some name ↔
      entry.kind ≠ .directory ∧ entry.name = .text name ∧
        Path.hasExtension name extension = true := by
  rw [archiveName?]
  split
  · rename_i hkind
    simp [hkind]
  · rename_i hkind
    cases hname : entry.name with
    | text text =>
      simp only [Octets.text?, Option.filter_eq_some_iff, Option.some_inj, Octets.text.injEq]
      constructor
      · rintro ⟨rfl, hext⟩
        exact ⟨hkind, rfl, hext⟩
      · rintro ⟨-, rfl, hext⟩
        exact ⟨rfl, hext⟩
    | raw bytes => simp [Octets.text?]

/-- What a scan finds is a name. -/
theorem Finds.isPiece (hnames : files.ListsNames)
    (h : Finds files base style extension dir name) :
    Text.IsPiece (· == '/') name.toList ∧ name ≠ "." := by
  obtain ⟨listing, hlist, entry, hentry, harchive⟩ := h
  obtain ⟨-, hname, hext⟩ := archiveName?_eq_some_iff.1 harchive
  have hslash := hnames _ listing hlist entry hentry name hname
  refine ⟨⟨ne_nil_of_hasExtension hext, fun c hc => ?_⟩, ne_dot_of_hasExtension hext⟩
  simpa using fun heq : c = '/' => hslash (heq ▸ hc)

/-! ### Where the entries lead -/

/-- One archive in a directory below the root. -/
def archiveInWork : FileTree :=
  ⟨[([.text "work"], .directory), ([.text "work", .text "top.jar"], .file (.text "") false)]⟩

theorem locate_work_slashes :
    archiveInWork.locate true [] "/work//" = .ok [.text "work"] :=
  FileTree.locate_ok_iff.2 ⟨⟨by decide, by decide, by decide⟩,
    .down rfl (by decide) rfl nofun (.here rfl (.done _ _))⟩

theorem locate_work : archiveInWork.locate true [] "/work" = .ok [.text "work"] :=
  FileTree.locate_ok_iff.2 ⟨⟨by decide, by decide, by decide⟩,
    .down rfl (by decide) rfl nofun (.done _ _)⟩

theorem locate_work_archive : archiveInWork.locate true [] "/work/top.jar" =
    .ok [.text "work", .text "top.jar"] :=
  FileTree.locate_ok_iff.2 ⟨⟨by decide, by decide, by decide⟩,
    .down rfl (by decide) rfl nofun (.down rfl (by decide) rfl nofun (.done _ _))⟩

/-- Every path that leads to the directory lists the archive. -/
theorem list_work {dir : String}
    (h : archiveInWork.locate true [] (Path.Style.native.resolve "/work" dir) =
      .ok [.text "work"]) :
    (archiveInWork.view []).list (Path.Style.native.resolve "/work" dir) =
      .ok [⟨.text "top.jar", .file⟩] := by
  have hentries : archiveInWork.entriesAt [.text "work"] = [⟨.text "top.jar", .file⟩] := by decide
  have hdir : archiveInWork.isDirectory [.text "work"] = true := rfl
  change archiveInWork.list [] _ = _
  simp [FileTree.list, h, bind, Except.bind, hentries, hdir, pure, Except.pure]

theorem finds_top {dir : String}
    (h : archiveInWork.locate true [] (Path.Style.native.resolve "/work" dir) =
      .ok [.text "work"]) :
    Finds (archiveInWork.view []) "/work" .native "jar" dir "top.jar" :=
  ⟨_, list_work h, _, List.mem_singleton_self _, by decide⟩

theorem found_top {dir : String}
    (h : archiveInWork.locate true [] (Path.Style.native.resolve "/work" dir) =
      .ok [.text "work"]) :
    found (archiveInWork.view []) "/work" .native "jar" dir =
      [entryText .native dir "top.jar"] := by
  rw [found, list_work h]
  rfl

/-- **For which directories the entries lead to the archives.**  Every entry but the first stems
from an archive that the scan of a directory finds. Resolved against the base, it is the path of
that archive below the resolved directory exactly if the directory is not spelled by the empty text
or the base is the root. Then every tree has the same file on both paths. Behind the empty text, the
entry is the name below the root. -/
theorem entry_locates_archive_iff (hnames : files.ListsNames) (base extension : String)
    (dirs : List String) :
    ∃ classpath events, (build files base .native extension dirs).Yields classpath events ∧
      (∃ entries, classpath.entries = sentinel :: entries ∧
        ∀ entry, entry ∈ entries ↔ ∃ dir ∈ dirs, ∃ name,
          Finds files base .native extension dir name ∧ entry = entryText .native dir name) ∧
      ∀ dir name, Finds files base .native extension dir name →
        (Path.Same (Path.Style.native.resolve base (entryText .native dir name))
            (Path.join (Path.Style.native.resolve base dir) name) ↔
          dir ≠ "" ∨ Path.Same base "/") ∧
        (dir ≠ "" → ∀ (tree : FileTree) (cwd place : Place),
          FileTree.IsPath (Path.Style.native.resolve base (entryText .native dir name)) →
          (tree.locate true cwd
              (Path.Style.native.resolve base (entryText .native dir name)) = .ok place ↔
            tree.locate true cwd
              (Path.join (Path.Style.native.resolve base dir) name) = .ok place)) ∧
        (dir = "" →
          Path.Style.native.resolve base (entryText .native dir name) = "/" ++ name) := by
  obtain ⟨events, hbuild⟩ := build_yields files base .native extension dirs
  refine ⟨_, events, hbuild, ⟨_, rfl, ?_⟩, ?_⟩
  · intro entry
    simp only [List.mem_flatMap, mem_found_iff]
  · intro dir name hfinds
    obtain ⟨hpiece, hdot⟩ := hfinds.isPiece hnames
    refine ⟨Path.Style.same_resolve_below_iff base dir hpiece hdot,
      fun hne tree cwd place hpath => FileTree.locate_below_iff hne hpiece hpath, ?_⟩
    rintro rfl
    refine Path.Style.resolve_of_isAbsolute .native base ?_
    simp [entryText, Path.isAbsolute, Path.Style.native, Path.Style.unix]

/-- The entry of a directory with slashes at its end leads to the archive. -/
theorem entry_locates_archive_behind_slashes :
    (archiveInWork.view []).ListsNames ∧
      Finds (archiveInWork.view []) "/work" .native "jar" "/work//" "top.jar" ∧
      Path.Same (Path.Style.native.resolve "/work" (entryText .native "/work//" "top.jar"))
        (Path.join (Path.Style.native.resolve "/work" "/work//") "top.jar") ∧
      archiveInWork.locate true []
          (Path.Style.native.resolve "/work" (entryText .native "/work//" "top.jar")) =
        .ok [.text "work", .text "top.jar"] := by
  have hnames : (archiveInWork.view []).ListsNames :=
    FileTree.view_listsNames (by simp [archiveInWork]) []
  have hfinds : Finds (archiveInWork.view []) "/work" .native "jar" "/work//" "top.jar" :=
    finds_top locate_work_slashes
  obtain ⟨_, _, _, _, hleads⟩ := entry_locates_archive_iff hnames "/work" "jar" ["/work//"]
  obtain ⟨hsame, hlocate, -⟩ := hleads "/work//" "top.jar" hfinds
  refine ⟨hnames, hfinds, hsame.2 (.inl (by decide)), ?_⟩
  refine (hlocate (by decide) archiveInWork [] _ ⟨by decide, by decide, by decide⟩).2 ?_
  exact FileTree.locate_ok_iff.2 ⟨⟨by decide, by decide, by decide⟩,
    .down rfl (by decide) rfl nofun (.down rfl (by decide) rfl nofun (.done _ _))⟩

/-- **A class path whose entry leads elsewhere.**  The directory spelled by the empty text is the
base, where the scan finds an archive. Its entry is looked for below the root, where nothing
stands. -/
theorem entry_misses_archive_of_empty_dir :
    (∃ events, (build (archiveInWork.view []) "/work" .native "jar" [""]).Yields
      ⟨.native, [".", "/top.jar"]⟩ events) ∧
    Finds (archiveInWork.view []) "/work" .native "jar" "" "top.jar" ∧
    entryText .native "" "top.jar" = "/top.jar" ∧
    ¬ Path.Same (Path.Style.native.resolve "/work" "/top.jar")
        (Path.join (Path.Style.native.resolve "/work" "") "top.jar") ∧
    archiveInWork.locate true [] (Path.join (Path.Style.native.resolve "/work" "") "top.jar") =
      .ok [.text "work", .text "top.jar"] ∧
    ¬ ∃ place, archiveInWork.locate true [] (Path.Style.native.resolve "/work" "/top.jar") =
      .ok place := by
  obtain ⟨events, hbuild⟩ :=
    build_yields (archiveInWork.view []) "/work" .native "jar" [""]
  have hfinds : Finds (archiveInWork.view []) "/work" .native "jar" "" "top.jar" :=
    finds_top locate_work
  have hfound : found (archiveInWork.view []) "/work" .native "jar" "" = ["/top.jar"] :=
    found_top locate_work
  refine ⟨⟨events, by simpa [hfound, sentinel] using hbuild⟩, hfinds, by decide, by decide,
    locate_work_archive, ?_⟩
  rintro ⟨place, h⟩
  obtain ⟨-, hleads⟩ := FileTree.locate_ok_iff.1 h
  have hsteps : FileTree.stepsOf (Path.Style.native.resolve "/work" "/top.jar").toList =
      [.down (.text "top.jar")] := by decide
  rw [hsteps] at hleads
  -- Nothing of that name stands at the root.
  cases hleads with
  | down _ _ hnode => cases hnode
  | link _ _ hnode => cases hnode

end Classpath

end RuntimeLauncher
