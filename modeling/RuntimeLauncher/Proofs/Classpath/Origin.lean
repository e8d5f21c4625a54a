import RuntimeLauncher.Proofs.Classpath.ReadBack
import RuntimeLauncher.Proofs.Classpath.Segments

/-!
# Every entry of a class path tells where it comes from

An entry is a directory as the settings spell it, a slash, and the name of an archive. Directories
can be spelled in any way, with slashes in any number of places, but a name has none. So an entry is
taken apart again at its last slash. Two directories with different spellings never share an entry,
even where one is the beginning of the other or both lead to the same place.

## Main Definitions

* `Files.ListsProperNames` — the names in a directory differ and are no paths

## Main Statements

* `entryText_inj` — an entry by its directory and its name
* `found_nodup`, `found_disjoint` — no entry twice, neither in a scan nor in two scans
* `entries_tell_origin` — what an entry of a class path tells
-/

namespace RuntimeLauncher

/-- **The names in a directory** differ from one another, and no name has a slash. -/
structure Files.ListsProperNames (files : Files) : Prop where
  names : files.ListsNames
  distinct : ∀ path listing, files.list path = .ok listing →
    (listing.map Files.Entry.name).Nodup

/-- The listings of a regular tree, in whatever order, have proper names if its places are made of
such names. -/
theorem FileTree.Regular.listsProperNames {tree : FileTree} {cwd : Place} {files : Files}
    (hregular : tree.Regular)
    (hslash : ∀ node ∈ tree.nodes, ∀ name, .text name ∈ node.1 → '/' ∉ name.toList)
    (hfiles : files.Lists tree cwd) : files.ListsProperNames where
  names path listing hlist entry hentry name hname := by
    obtain ⟨place, -, -, hlines⟩ := hfiles path listing hlist
    obtain ⟨node, hnode, -⟩ := FileTree.mem_entriesAt_iff.1 (hlines.subset hentry)
    exact hslash _ hnode name (by simp [hname])
  distinct path listing hlist := by
    obtain ⟨place, -, -, hlines⟩ := hfiles path listing hlist
    exact (hlines.map _).nodup_iff.2 (hregular.names_nodup place)

namespace Classpath

variable {files : Files} {base extension dir dir' name name' : String} {style : Path.Style}

/-- **An entry by its directory and its name.**  Names without separators are told from the
directories before them. -/
theorem entryText_inj (h : style.dirSeparator ∉ name.toList)
    (h' : style.dirSeparator ∉ name'.toList) :
    entryText style dir name = entryText style dir' name' ↔ dir = dir' ∧ name = name' := by
  have hchars (dir name : String) : (entryText style dir name).toList =
      dir.toList ++ style.dirSeparator :: name.toList := by simp [entryText]
  rw [← String.toList_inj, hchars, hchars, Text.append_sep_inj h h', String.toList_inj,
    String.toList_inj]

/-- No entry is the sentinel, since it has a slash. -/
theorem entryText_ne_sentinel (dir name : String) : entryText .native dir name ≠ sentinel := by
  intro h
  have hslash : '/' ∈ (entryText .native dir name).toList :=
    mem_entryText_iff.2 (.inr (.inl rfl))
  rw [h] at hslash
  simp [sentinel] at hslash

/-- What a scan finds has no slash. -/
theorem Finds.no_slash (hfiles : files.ListsProperNames)
    (h : Finds files base style extension dir name) : '/' ∉ name.toList := by
  obtain ⟨hpiece, -⟩ := h.isPiece hfiles.names
  intro hmem
  simpa using hpiece.2 '/' hmem

/-- A scan finds no entry twice. -/
theorem found_nodup (hfiles : files.ListsProperNames) (base extension dir : String) :
    (found files base .native extension dir).Nodup := by
  unfold found
  cases hlist : files.list (Path.Style.native.resolve base dir) with
  | error failure => exact List.nodup_nil
  | ok listing =>
    have hfinds {name : String} (h : name ∈ listing.filterMap (archiveName? extension)) :
        Finds files base .native extension dir name :=
      ⟨listing, hlist, List.mem_filterMap.1 h⟩
    have hnames := archiveNames_nodup extension (hfiles.distinct _ _ hlist)
    refine hnames.map_on fun name hname other hother heq => ?_
    exact ((entryText_inj ((hfinds hname).no_slash hfiles)
      ((hfinds hother).no_slash hfiles)).1 heq).2

/-- Two directories with different spellings share no entry. -/
theorem found_disjoint (hfiles : files.ListsProperNames) (base extension : String)
    (hne : dir ≠ dir') : (found files base .native extension dir).Disjoint
      (found files base .native extension dir') := by
  intro entry h h'
  obtain ⟨name, hname, rfl⟩ := mem_found_iff.1 h
  obtain ⟨other, hother, heq⟩ := mem_found_iff.1 h'
  exact hne ((entryText_inj (hname.no_slash hfiles) (hother.no_slash hfiles)).1 heq).1

/-- **Every entry tells where it comes from.**  Let the directories have different spellings, and
let the names in each of them differ and have no slash. Then no entry stands twice in the class
path, the sentinel included. Every entry behind the sentinel stems from an archive that the scan of
one of the directories finds, and from no other directory and no other name. -/
theorem entries_tell_origin (hfiles : files.ListsProperNames) (base extension : String)
    {dirs : List String} (hdirs : dirs.Nodup) :
    ∃ entries events, (build files base .native extension dirs).Yields
        ⟨.native, sentinel :: entries⟩ events ∧
      entries.Nodup ∧ sentinel ∉ entries ∧
      ∀ entry ∈ entries, ∃ dir ∈ dirs, ∃ name, Finds files base .native extension dir name ∧
        ∀ dir' name', '/' ∉ name'.toList →
          (entry = entryText .native dir' name' ↔ dir' = dir ∧ name' = name) := by
  obtain ⟨events, hbuild⟩ := build_yields files base .native extension dirs
  refine ⟨_, events, hbuild, ?_, ?_, ?_⟩
  · refine List.nodup_flatMap.2 ⟨fun dir _ => found_nodup hfiles base extension dir, ?_⟩
    exact hdirs.imp fun hne => found_disjoint hfiles base extension hne
  · intro hmem
    obtain ⟨dir, -, hfound⟩ := List.mem_flatMap.1 hmem
    obtain ⟨name, -, heq⟩ := mem_found_iff.1 hfound
    exact entryText_ne_sentinel dir name heq.symm
  · intro entry hentry
    obtain ⟨dir, hdir, hfound⟩ := List.mem_flatMap.1 hentry
    obtain ⟨name, hfinds, rfl⟩ := mem_found_iff.1 hfound
    refine ⟨dir, hdir, name, hfinds, fun dir' name' hslash => ?_⟩
    rw [entryText_inj (hfinds.no_slash hfiles) hslash, eq_comm, @eq_comm _ name]

/-- A directory that is spelled in three ways, one the beginning of another. Each way has its own
entries. -/
theorem entries_tell_spelling_mixedLib :
    mixedLibBackwards.ListsProperNames ∧ ["lib", "lib/", "/lib"].Nodup ∧
      (∃ entries events,
        (build mixedLibBackwards "/" .native "jar" ["lib", "lib/", "/lib"]).Yields
            ⟨.native, sentinel :: entries⟩ events ∧
          entries.Nodup ∧ sentinel ∉ entries ∧
          ∀ entry ∈ entries, ∃ dir ∈ ["lib", "lib/", "/lib"], ∃ name,
            Finds mixedLibBackwards "/" .native "jar" dir name ∧
              ∀ dir' name', '/' ∉ name'.toList →
                (entry = entryText .native dir' name' ↔ dir' = dir ∧ name' = name)) ∧
      ∃ events, (build mixedLibBackwards "/" .native "jar" ["lib", "lib/", "/lib"]).Yields
        ⟨.native, [".", "lib/b.JAR", "lib/a.b.jar", "lib//b.JAR", "lib//a.b.jar", "/lib/b.JAR",
          "/lib/a.b.jar"]⟩ events := by
  have hfiles : mixedLibBackwards.ListsProperNames :=
    mixedLib_regular.listsProperNames (by simp [mixedLib]) mixedLibBackwards_lists
  exact ⟨hfiles, by decide, entries_tell_origin hfiles "/" "jar" (by decide),
    build_yields mixedLibBackwards "/" .native "jar" ["lib", "lib/", "/lib"]⟩

end Classpath

end RuntimeLauncher
