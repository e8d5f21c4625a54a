import RuntimeLauncher.Proofs.Classpath.Entry
import RuntimeLauncher.Proofs.Files.Regular
import RuntimeLauncher.Proofs.Path.Extension

/-!
# The class path lists the archives, scan by scan

Behind the sentinel stands one segment for each directory, in the order of the directories. The
segment of a directory holds its archives, each once. Which order they come in is up to the listing,
and a directory that is scanned twice may be listed in two orders.

## Main Definitions

* `FileTree.HoldsArchive` — a directory of a tree holds an archive of some name
* `Classpath.IsSegment` — what the scan of a directory of a tree should find
* `Classpath.addInTurn` — a row of scans, each of which sees its own listings

## Main Statements

* `mem_archiveNames_iff` — the names that pass the tests of a scan are those of the archives
* `found_isSegment` — the finds of a scan are its segment
* `addInTurn_yields` — a row of scans appends a row of segments
* `build_lists_archives` — the class path is the sentinel and the segments of all directories

## Design Notes

An archive is told by what stands in the tree and by the parts of its name, and never by the tests
of the scan. A link stands for itself, wherever it points.
-/

namespace RuntimeLauncher

/-- The directory holds an archive of this name: it is no directory itself, and its name ends in the
extension. -/
structure FileTree.HoldsArchive (tree : FileTree) (extension : String) (place : Place)
    (name : String) : Prop where
  stands : ∃ node, tree.node? (place ++ [.text name]) = some node ∧ node ≠ .directory
  ending : Path.HasEnding name extension

namespace Classpath

/-- **What a scan should find.** There is nothing in a directory that is not listed. In one that is,
there is an entry for each archive, in some order. -/
inductive IsSegment (tree : FileTree) (cwd : Place) (files : Files) (base : String)
    (style : Path.Style) (extension dir : String) : List String → Prop where
  | unlisted {failure : Failure} (hlist : files.list (style.resolve base dir) = .error failure) :
      IsSegment tree cwd files base style extension dir []
  | listed {listing : List Files.Entry} {place : Place} {names segment : List String}
      (hlist : files.list (style.resolve base dir) = .ok listing)
      (hplace : tree.locate true cwd (style.resolve base dir) = .ok place)
      (hdir : tree.isDirectory place = true) (hnodup : names.Nodup)
      (hnames : ∀ name, name ∈ names ↔ tree.HoldsArchive extension place name)
      (hperm : segment.Perm (names.map (entryText style dir))) :
      IsSegment tree cwd files base style extension dir segment

/-- Adds the archives of a row of directories, each as its own scan sees them. -/
def addInTurn (base extension : String) : Classpath → List (Files × String) → Logged Classpath
  | classpath, [] => pure classpath
  | classpath, (files, dir) :: rest => do
    let (_, classpath) ← classpath.addFrom files base extension dir
    addInTurn base extension classpath rest

variable {tree : FileTree} {cwd place : Place} {files : Files} {base extension dir name : String}
  {style : Path.Style} {listing : List Files.Entry}

/-- Scans that all see the same listings are those of a class path. -/
theorem addAll_eq_addInTurn (files : Files) (base extension : String) (classpath : Classpath)
    (dirs : List String) : addAll files base extension classpath dirs =
      addInTurn base extension classpath (dirs.map (files, ·)) := by
  induction dirs generalizing classpath with
  | nil => rfl
  | cons dir rest ih =>
    rw [List.map_cons, addAll, addInTurn]
    exact bind_congr fun added => ih added.2

/-! ### The archives of a listing -/

/-- A listing without repeated names has no archive twice. -/
theorem archiveNames_nodup (extension : String) (h : (listing.map Files.Entry.name).Nodup) :
    (listing.filterMap (archiveName? extension)).Nodup := by
  have hlines : listing.Pairwise fun a b => a.name ≠ b.name := List.pairwise_map.1 h
  refine List.pairwise_filterMap.2 (hlines.imp ?_)
  rintro a b hne name ha other hb rfl
  obtain ⟨-, haName, -⟩ := archiveName?_eq_some_iff.1 ha
  obtain ⟨-, hbName, -⟩ := archiveName?_eq_some_iff.1 hb
  exact hne (haName.trans hbName.symm)

/-- The archives of a listing are those that the directory holds. -/
theorem mem_archiveNames_iff (hregular : tree.Regular)
    (hlines : listing.Perm (tree.entriesAt place)) :
    name ∈ listing.filterMap (archiveName? extension) ↔
      tree.HoldsArchive extension place name := by
  have hstands (node : FileNode) : tree.node? (place ++ [.text name]) = some node ↔
      (place ++ [.text name], node) ∈ tree.nodes := hregular.node?_eq_some_iff (by simp)
  rw [List.mem_filterMap]
  constructor
  · rintro ⟨entry, hentry, harchive⟩
    obtain ⟨hkind, hname, hext⟩ := archiveName?_eq_some_iff.1 harchive
    obtain ⟨node, hnode, hkindOf⟩ := FileTree.mem_entriesAt_iff.1 (hlines.subset hentry)
    rw [hname] at hnode
    have hdirectory : node ≠ .directory := by
      rintro rfl
      exact hkind hkindOf
    exact ⟨⟨node, (hstands node).2 hnode, hdirectory⟩,
      (Path.hasExtension_iff (hregular.name_ne_parent hnode) extension).1 hext⟩
  · rintro ⟨⟨node, hnode, hdirectory⟩, hending⟩
    have hmem := (hstands node).1 hnode
    have hentry : ⟨.text name, FileTree.kindOf node⟩ ∈ tree.entriesAt place :=
      FileTree.mem_entriesAt_iff.2 ⟨node, hmem, rfl⟩
    have hext : Path.hasExtension name extension = true :=
      (Path.hasExtension_iff (hregular.name_ne_parent hmem) extension).2 hending
    exact ⟨_, hlines.mem_iff.2 hentry, archiveName?_eq_some_iff.2
      ⟨mt FileTree.kindOf_eq_directory_iff.1 hdirectory, rfl, hext⟩⟩

/-! ### Scan by scan -/

/-- **The finds of a scan are its segment.** -/
theorem found_isSegment (hregular : tree.Regular) (hfiles : files.Lists tree cwd)
    (base : String) (style : Path.Style) (extension dir : String) :
    IsSegment tree cwd files base style extension dir
      (found files base style extension dir) := by
  unfold found
  cases hlist : files.list (style.resolve base dir) with
  | error failure => exact .unlisted hlist
  | ok listing =>
    obtain ⟨place, hplace, hdir, hlines⟩ := hfiles _ listing hlist
    have hnames : (listing.map Files.Entry.name).Nodup :=
      (hlines.map _).nodup_iff.2 (hregular.names_nodup place)
    exact .listed hlist hplace hdir (archiveNames_nodup extension hnames)
      (fun name => mem_archiveNames_iff hregular hlines) (.refl _)

/-- **A scan appends its segment,** and says how long that is. -/
theorem addFrom_yields_segment (hregular : tree.Regular) (hfiles : files.Lists tree cwd)
    (classpath : Classpath) (base extension dir : String) :
    ∃ segment events, (classpath.addFrom files base extension dir).Yields
        (segment.length, { classpath with entries := classpath.entries ++ segment }) events ∧
      IsSegment tree cwd files base classpath.style extension dir segment := by
  obtain ⟨events, hadd⟩ := addFrom_yields classpath files base extension dir
  exact ⟨_, events, hadd, found_isSegment hregular hfiles base classpath.style extension dir⟩

/-- **A row of scans appends a row of segments.** -/
theorem addInTurn_yields (hregular : tree.Regular) (base extension : String)
    (classpath : Classpath) {scans : List (Files × String)}
    (hfiles : ∀ scan ∈ scans, scan.1.Lists tree cwd) :
    ∃ segments events, (addInTurn base extension classpath scans).Yields
        { classpath with entries := classpath.entries ++ segments.flatten } events ∧
      List.Forall₂ (fun scan segment =>
        IsSegment tree cwd scan.1 base classpath.style extension scan.2 segment)
        scans segments := by
  induction scans generalizing classpath with
  | nil => exact ⟨[], [], by simpa [addInTurn] using Logged.Yields.pure classpath, .nil⟩
  | cons scan rest ih =>
    obtain ⟨files, dir⟩ := scan
    obtain ⟨hhead, hrest⟩ := List.forall_mem_cons.1 hfiles
    obtain ⟨segment, events, hadd, hsegment⟩ :=
      addFrom_yields_segment hregular hhead classpath base extension dir
    obtain ⟨segments, later, hyields, hsegments⟩ :=
      ih { classpath with entries := classpath.entries ++ segment } hrest
    refine ⟨segment :: segments, events ++ later, ?_, .cons hsegment hsegments⟩
    have h := hadd.bind (f := fun added => addInTurn base extension added.2 rest) hyields
    simpa [addInTurn, List.append_assoc] using h

/-- **The class path lists the archives.** Let listings be those of a regular tree, in any order.
The class path is the sentinel, followed by the segments of the directories in their order. It is
so, too, if every scan sees an order of its own. And each addition leaves the entries before it as
they are, appends the segment of its directory, and says how long that is. -/
theorem build_lists_archives (hregular : tree.Regular) (cwd : Place) (base extension : String)
    (style : Path.Style) :
    (∀ files : Files, files.Lists tree cwd → ∀ dirs, ∃ segments events,
      (build files base style extension dirs).Yields
          ⟨style, sentinel :: segments.flatten⟩ events ∧
        List.Forall₂ (IsSegment tree cwd files base style extension) dirs segments) ∧
    (∀ scans : List (Files × String), (∀ scan ∈ scans, scan.1.Lists tree cwd) →
      ∃ segments events, (addInTurn base extension (start style) scans).Yields
          ⟨style, sentinel :: segments.flatten⟩ events ∧
        List.Forall₂ (fun scan segment =>
          IsSegment tree cwd scan.1 base style extension scan.2 segment) scans segments) ∧
    ∀ files : Files, files.Lists tree cwd → ∀ (classpath : Classpath) (dir : String),
      ∃ segment events, (classpath.addFrom files base extension dir).Yields
          (segment.length, { classpath with entries := classpath.entries ++ segment }) events ∧
        IsSegment tree cwd files base classpath.style extension dir segment := by
  refine ⟨?_, ?_, ?_⟩
  · intro files hfiles dirs
    have hscans : ∀ scan ∈ dirs.map (files, ·), scan.1.Lists tree cwd := by
      intro scan hscan
      obtain ⟨dir, -, rfl⟩ := List.mem_map.1 hscan
      exact hfiles
    obtain ⟨segments, events, hyields, hsegments⟩ :=
      addInTurn_yields hregular base extension (start style) hscans
    rw [List.forall₂_map_left_iff] at hsegments
    refine ⟨segments, events, ?_, hsegments⟩
    rw [build, addAll_eq_addInTurn]
    exact hyields
  · intro scans hfiles
    exact addInTurn_yields hregular base extension (start style) hfiles
  · intro files hfiles classpath dir
    exact addFrom_yields_segment hregular hfiles classpath base extension dir

/-- A directory with archives among other things: a directory that is named like an archive, a
hidden name, a name that ends in a dot, and one that is not text. -/
def mixedLib : FileTree :=
  ⟨[([.text "lib"], .directory),
    ([.text "lib", .text "a.b.jar"], .file (.text "") false),
    ([.text "lib", .text "b.JAR"], .link "/gone"),
    ([.text "lib", .text "d.jar"], .directory),
    ([.text "lib", .text ".jar"], .file (.text "") false),
    ([.text "lib", .text "jar."], .file (.text "") false),
    ([.text "lib", .raw [255, 46, 106, 97, 114]], .file (.text "") false)]⟩

/-- Shows the directory from its end, and nothing else. -/
def mixedLibBackwards : Files where
  stat _ := .error .notFound
  list path :=
    if path = "/lib" then .ok (mixedLib.entriesAt [.text "lib"]).reverse else .error .notFound
  readText _ := .error .notFound

theorem mixedLib_regular : mixedLib.Regular := ⟨by decide, by decide⟩

theorem mixedLibBackwards_lists : mixedLibBackwards.Lists mixedLib [] := by
  intro path listing hlist
  change (if path = "/lib" then _ else _) = _ at hlist
  split at hlist
  · rename_i hpath
    obtain rfl := Except.ok.inj hlist
    have hlocate : mixedLib.locate true [] path = .ok [.text "lib"] := by
      subst hpath
      exact FileTree.locate_ok_iff.2 ⟨⟨by decide, by decide, by decide⟩,
        .down rfl (by decide) rfl nofun (.done _ _)⟩
    exact ⟨_, hlocate, rfl, List.reverse_perm _⟩
  · cases hlist

/-- A class path with a directory that is scanned twice and one that is not there. -/
theorem build_lists_mixedLib :
    mixedLib.Regular ∧ mixedLibBackwards.Lists mixedLib [] ∧
      (∃ segments events,
        (build mixedLibBackwards "/" .native "jar" ["lib", "gone", "lib"]).Yields
            ⟨.native, sentinel :: segments.flatten⟩ events ∧
          List.Forall₂ (IsSegment mixedLib [] mixedLibBackwards "/" .native "jar")
            ["lib", "gone", "lib"] segments) ∧
      ∃ events, (build mixedLibBackwards "/" .native "jar" ["lib", "gone", "lib"]).Yields
        ⟨.native, [".", "lib/b.JAR", "lib/a.b.jar", "lib/b.JAR", "lib/a.b.jar"]⟩ events := by
  have h := (build_lists_archives mixedLib_regular [] "/" "jar" .native).1
    mixedLibBackwards mixedLibBackwards_lists ["lib", "gone", "lib"]
  exact ⟨mixedLib_regular, mixedLibBackwards_lists, h,
    build_yields mixedLibBackwards "/" .native "jar" ["lib", "gone", "lib"]⟩

end Classpath

end RuntimeLauncher
