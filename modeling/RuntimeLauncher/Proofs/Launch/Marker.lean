import RuntimeLauncher.Proofs.Classpath.Entry
import RuntimeLauncher.Proofs.Discovery.Steps
import RuntimeLauncher.Proofs.Launch.Outcome

/-!
# Markers on the class path

The default markers are archives in directories that are scanned for the class path. A launch asks
for a marker by its path, and the scan comes across it in a listing. So a marker that is there
becomes an entry, written exactly as the settings write it, unless a directory stands in its place.

## Main Definitions

* `Settings.Scans` — a marker is an archive in a directory that is scanned
* `Launcher.byDefault` — a launcher with the default settings, in a file tree
* `installation` — a tree with a runtime, and with any node in place of a marker

## Main Statements

* `Settings.Scans.exists_stands` — a marker that is there is found by the scan, or is a directory
* `Launcher.present_markers_are_entries` — the markers on the class path of a launch
* `Launcher.directory_marker_is_no_entry` — a launch with a marker that is a directory

## Design Notes

The check follows links and asks for no kind, since any trace of an installation will do. The scan
follows no link and drops directories. So a link to a directory passes both, and a directory passes
the check alone.
-/

namespace RuntimeLauncher

/-! ### What a scan comes across -/

namespace Classpath

variable {files : Files} {tree : FileTree} {cwd : Place} {base extension dir name : String}
  {style : Path.Style}

/-- In a tree without archives, no scan finds anything. -/
theorem found_eq_nil (h : ∀ entry ∈ tree.nodes, ∀ name ∈ entry.1.getLast?,
      archiveName? extension ⟨name, FileTree.kindOf entry.2⟩ = none) :
    found (tree.view cwd) base style extension dir = [] := by
  rw [List.eq_nil_iff_forall_not_mem]
  intro entry hentry
  obtain ⟨name, ⟨listing, hlist, line, hline, harchive⟩, -⟩ := mem_found_iff.1 hentry
  have hlist : tree.list cwd (style.resolve base dir) = .ok listing := hlist
  obtain ⟨place, node, hnode, hkind⟩ := FileTree.exists_of_mem_list hlist hline
  have hnone := h _ hnode line.name List.getLast?_concat
  rw [← hkind, harchive] at hnone
  cases hnone

end Classpath

/-- A resolved path is not empty if it was made of a relative one that is not. -/
theorem Path.Style.resolve_ne_empty {path : String} (base : String) (hne : path ≠ "")
    (hrel : Path.isAbsolute path.toList = false) : native.resolve base path ≠ "" := by
  obtain ⟨c, rest, hcons⟩ := List.exists_cons_of_ne_nil (l := path.toList) (by simpa using hne)
  have hslash : c ≠ '/' := by simpa [Path.isAbsolute, hcons] using hrel
  have hmem : c ∈ (native.resolve base path).toList :=
    Path.Style.mem_resolve base hrel (hcons ▸ List.mem_cons_self) hslash
  intro hempty
  simp [hempty] at hmem

namespace Settings

/-- A marker that a scan can come across: an archive directly inside one of the directories, which
is given relative to the working directory. -/
structure Scans (settings : Settings) (marker dir name : String) : Prop where
  marker_eq : marker = Classpath.entryText .native dir name
  dir_mem : dir ∈ settings.classpathDirs
  dir_ne : dir ≠ ""
  relative : Path.isAbsolute dir.toList = false
  named : FileTree.IsName name
  archive : Path.hasExtension name settings.archiveExtension = true

variable {settings : Settings} {tree : FileTree} {cwd : Place} {base marker dir name : String}

/-- **A marker that is there is found by the scan, or is a directory.** -/
theorem Scans.exists_stands (h : settings.Scans marker dir name)
    (hpresent : (tree.view cwd).present (Path.Style.native.resolve base marker) = true) :
    ∃ node, tree.Stands cwd (Path.Style.native.resolve base marker) node ∧
      (node ≠ .directory → marker ∈
        Classpath.found (tree.view cwd) base .native settings.archiveExtension dir) := by
  obtain ⟨kind, hstat⟩ := Launcher.present_iff.1 hpresent
  have hstat : tree.stat cwd (Path.Style.native.resolve base marker) = .ok kind := hstat
  -- The path that is checked is a name below the directory that is scanned.
  have hbelow : Path.Style.native.resolve base marker =
      Path.join (Path.Style.native.resolve base dir) name := by
    rw [h.marker_eq]
    exact Path.Style.resolve_below_of_relative base h.dir_ne h.relative h.named.piece
  rw [hbelow] at hstat ⊢
  obtain ⟨node, listing, hstands, hlist, hline⟩ := FileTree.exists_listed_of_stat
    (Path.Style.resolve_ne_empty base h.dir_ne h.relative) h.named hstat
  refine ⟨node, hstands, fun hnode => Classpath.mem_found_iff.2 ⟨name, ?_, h.marker_eq⟩⟩
  have hkind : FileTree.kindOf node ≠ .directory := mt FileTree.kindOf_eq_directory_iff.1 hnode
  exact ⟨listing, hlist, _, hline,
    Classpath.archiveName?_eq_some_iff.2 ⟨hkind, rfl, h.archive⟩⟩

/-- The default markers are archives in directories that are scanned by default. -/
theorem exists_scans_default (h : marker ∈ Settings.default.markers) :
    ∃ dir name, Settings.default.Scans marker dir name := by
  have hname : FileTree.IsName markerArchive := by decide
  have hmarkers : Settings.default.markers =
      [Classpath.entryText .native "../dist" markerArchive,
        Classpath.entryText .native "../lib" markerArchive] := by decide
  rw [hmarkers] at h
  obtain rfl | h := List.mem_cons.1 h
  · exact ⟨"../dist", markerArchive, rfl, by decide, by decide, rfl, hname, by decide⟩
  · obtain rfl := List.mem_singleton.1 h
    exact ⟨"../lib", markerArchive, rfl, by decide, by decide, rfl, hname, by decide⟩

/-- No default marker is cut where the class path is. -/
theorem no_colon_default : ∀ marker ∈ Settings.default.markers, ':' ∉ marker.toList := by
  decide

end Settings

namespace Launcher

/-- A launcher with the default settings, in a file tree. -/
def byDefault (environment : Environment) (tree : FileTree) (cwd : Place) (workDir : String) :
    Launcher :=
  ⟨.default, environment, tree.view cwd, workDir⟩

/-- **The markers on the class path of a launch.**  If the checks pass with the default settings,
some marker is there. Every marker that is there is an entry of the class path and can be read off
the command, unless the marker itself is a directory. -/
theorem present_markers_are_entries (environment : Environment) (tree : FileTree) (cwd : Place)
    (workDir : String) (store : Store) (command : Command)
    (h : (byDefault environment tree cwd workDir).prepare.Answers store (.ok command)) :
    let launcher := byDefault environment tree cwd workDir
    ∃ classpath events, launcher.classpath.Yields classpath events ∧
      command.classpath = classpath.text ∧
      (∃ marker ∈ launcher.settings.markers,
        launcher.files.present (launcher.place marker) = true) ∧
      ∀ marker ∈ launcher.settings.markers,
        launcher.files.present (launcher.place marker) = true →
        ∃ node, tree.Stands cwd (launcher.place marker) node ∧
          (node ≠ .directory → marker ∈ classpath.entries ∧
            marker.toList ∈ Text.splitBy (· == ':') command.classpath.toList) := by
  intro launcher
  have hcommands := settles_ok_iff.1 (prepare_answers_iff_settles.1 h)
  obtain ⟨classpath, events, hclasspath, htext⟩ := hcommands.classpath
  obtain ⟨later, hbuild⟩ := Classpath.build_yields launcher.files workDir .native
    launcher.settings.archiveExtension launcher.settings.classpathDirs
  obtain rfl := (hclasspath.unique hbuild).1
  refine ⟨_, events, hclasspath, htext, ?_, fun marker hmarker hpresent => ?_⟩
  · obtain ⟨marker, hmarker, hkind⟩ := hcommands.installed
    exact ⟨marker, hmarker, present_iff.2 hkind⟩
  · obtain ⟨dir, name, hscans⟩ := Settings.exists_scans_default hmarker
    obtain ⟨node, hstands, hfound⟩ := hscans.exists_stands hpresent
    refine ⟨node, hstands, fun hnode => ?_⟩
    have hentry : marker ∈ Classpath.sentinel :: launcher.settings.classpathDirs.flatMap
        (Classpath.found launcher.files workDir .native launcher.settings.archiveExtension) :=
      List.mem_cons_of_mem _ (List.mem_flatMap.2 ⟨dir, hscans.dir_mem, hfound hnode⟩)
    refine ⟨hentry, ?_⟩
    rw [htext, Classpath.text, String.toList_ofList]
    refine Text.mem_splitBy_joinWith rfl (List.mem_map_of_mem hentry) fun c hc => ?_
    exact beq_false_of_ne (ne_of_mem_of_not_mem hc (Settings.no_colon_default marker hmarker))

/-! ### Two installations -/

/-- A runtime, and an installation with a node in place of the archive that marks it. -/
def installation (marker : FileNode) : FileTree where
  nodes :=
    [([.text "jre"], .directory), ([.text "jre", .text "bin"], .directory),
      ([.text "jre", .text "bin", .text "java"], .file (.text "") true),
      ([.text "work"], .directory), ([.text "lib"], .directory),
      ([.text "lib", .text "jxtashell.jar"], marker)]

/-- A store that names the runtime of the installation. -/
def storeOfInstallation : Store :=
  (Store.empty.insert .localMachine RuntimeSettings.default.key "CurrentVersion"
    (.string "1.8")).insert .localMachine (RuntimeSettings.default.key ++ "\\1.8") "JavaHome"
      (.string "/jre")

/-- A launch beside the directory of archives. -/
def inInstallation (marker : FileNode) : Launcher :=
  byDefault (fun _ => none) (installation marker) [] "/work"

theorem locates_storeOfInstallation :
    Locates RuntimeSettings.default storeOfInstallation (.ok "/jre/bin/java") :=
  locates_ok_iff_tells.2 ⟨"1.8", ⟨by rfl, by decide⟩, "/jre", ⟨by rfl, by decide⟩, rfl⟩

theorem place_program (marker : FileNode) :
    (inInstallation marker).place "/jre/bin/java" = "/jre/bin/java" :=
  (by decide : Path.Style.native.resolve "/work" "/jre/bin/java" = "/jre/bin/java")

theorem place_marker (marker : FileNode) :
    (inInstallation marker).place "../lib/jxtashell.jar" = "/work/../lib/jxtashell.jar" :=
  (by decide : Path.Style.native.resolve "/work" "../lib/jxtashell.jar" =
    "/work/../lib/jxtashell.jar")

theorem locate_program (marker : FileNode) :
    (installation marker).locate true [] "/jre/bin/java" =
      .ok [.text "jre", .text "bin", .text "java"] := by
  have hsteps : FileTree.stepsOf "/jre/bin/java".toList =
      [.down (.text "jre"), .down (.text "bin"), .down (.text "java")] := by decide
  refine FileTree.locate_ok_iff.2 ⟨by decide, ?_⟩
  rw [hsteps]
  exact .down rfl (by decide) rfl nofun (.down rfl (by decide) rfl nofun
    (.down rfl (by decide) rfl nofun (.done _ _)))

theorem runnable_inInstallation (marker : FileNode) :
    (inInstallation marker).Runnable "/jre/bin/java" := by
  refine ⟨by decide, ?_⟩
  rw [place_program]
  exact FileTree.stat_file_iff.2 ⟨_, _, _, locate_program marker, rfl⟩

/-- The way to the directory of the marker. -/
theorem leads_lib (marker : FileNode) :
    (installation marker).Leads FileTree.maxLinks (FileTree.origin "/work/../lib".toList [])
      ((Path.names "/work/../lib".toList).map FileTree.Step.ofName) [.text "lib"] := by
  have hsteps : (Path.names "/work/../lib".toList).map FileTree.Step.ofName =
      [.down (.text "work"), .up, .down (.text "lib")] := by decide
  rw [hsteps]
  exact .down rfl (by decide) rfl nofun (.up rfl (.down rfl (by decide) rfl nofun (.done _ _)))

theorem stands_marker (marker : FileNode) : (installation marker).Stands []
    ((inInstallation marker).place "../lib/jxtashell.jar") marker := by
  have hjoin : Path.join "/work/../lib" "jxtashell.jar" = "/work/../lib/jxtashell.jar" := by decide
  rw [place_marker, ← hjoin]
  exact FileTree.stands_join (by decide) (by decide) (leads_lib marker) rfl (by decide) rfl

/-- What is seen at the marker, at the end of all links. -/
theorem stat_marker {marker node : FileNode} {place : Place}
    (h : (installation marker).Leads FileTree.maxLinks [.text "lib"]
      [.down (.text "jxtashell.jar")] place)
    (hnode : (installation marker).node? place = some node) :
    (inInstallation marker).files.stat ((inInstallation marker).place "../lib/jxtashell.jar") =
      .ok (FileTree.kindOf node) := by
  have hsteps : FileTree.stepsOf "/work/../lib/jxtashell.jar".toList =
      [.down (.text "work"), .up, .down (.text "lib"), .down (.text "jxtashell.jar")] := by decide
  have hlocate : (installation marker).locate true [] "/work/../lib/jxtashell.jar" = .ok place := by
    refine FileTree.locate_ok_iff.2 ⟨by decide, ?_⟩
    rw [hsteps]
    exact .down rfl (by decide) rfl nofun (.up rfl (.down rfl (by decide) rfl nofun h))
  rw [place_marker]
  exact FileTree.stat_of_locate hlocate hnode

/-- If something is seen at the marker, there is a command with the class path of the scans. -/
theorem exists_command_inInstallation {marker : FileNode} {kind : Files.Kind}
    (h : (inInstallation marker).files.stat
      ((inInstallation marker).place "../lib/jxtashell.jar") = .ok kind) :
    ∃ command, (inInstallation marker).prepare.Answers storeOfInstallation (.ok command) ∧
      command.classpath = (Classpath.mk .native (Classpath.sentinel ::
        Settings.default.classpathDirs.flatMap
          (Classpath.found ((installation marker).view []) "/work" .native "jar"))).text := by
  have hpath : (inInstallation marker).runtimePath.Answers storeOfInstallation "/jre/bin/java" :=
    runtimePath_answers_iff.2 (.inl locates_storeOfInstallation.answers)
  have hmarker : "../lib/jxtashell.jar" ∈ Settings.default.markers := by decide
  obtain ⟨proxy, hproxy⟩ := resolveProxy_restores ProxySettings.default storeOfInstallation
  obtain ⟨events, hbuild⟩ := Classpath.build_yields ((installation marker).view []) "/work" .native
    "jar" Settings.default.classpathDirs
  have hsettles : (inInstallation marker).Settles storeOfInstallation _ :=
    .ready "/jre/bin/java" hpath (runnable_inInstallation marker)
      ⟨"../lib/jxtashell.jar", hmarker, kind, h⟩ proxy hproxy _ events hbuild
  exact ⟨_, hsettles.answers, rfl⟩

/-- The archive is a link to a directory. It is there, and the link is an entry. -/
theorem linked_marker_is_entry :
    ∃ command, (inInstallation (.link "/work")).prepare.Answers storeOfInstallation (.ok command) ∧
      (inInstallation (.link "/work")).files.present
        ((inInstallation (.link "/work")).place "../lib/jxtashell.jar") = true ∧
      "../lib/jxtashell.jar".toList ∈ Text.splitBy (· == ':') command.classpath.toList := by
  have hleads : (installation (.link "/work")).Leads FileTree.maxLinks [.text "lib"]
      [.down (.text "jxtashell.jar")] [.text "work"] := by
    have htarget : FileTree.stepsOf "/work".toList = [.down (.text "work")] := by decide
    refine .link rfl (by decide) rfl ?_
    rw [htarget]
    exact .down rfl (by decide) rfl nofun (.done _ _)
  have hstat := stat_marker hleads rfl
  have hpresent := present_iff.2 ⟨_, hstat⟩
  obtain ⟨command, hcommand, -⟩ := exists_command_inInstallation hstat
  obtain ⟨_, _, -, -, -, hentries⟩ := present_markers_are_entries _ _ _ _ _ command hcommand
  obtain ⟨node, hstands, hentry⟩ := hentries "../lib/jxtashell.jar" (by decide) hpresent
  obtain rfl := hstands.unique (stands_marker (.link "/work"))
  exact ⟨command, hcommand, hpresent, (hentry nofun).2⟩

/-- **A launch with a marker that is a directory.**  The directory is there, so the checks pass. No
scan takes it for an archive, and nothing but the working directory is on the class path. -/
theorem directory_marker_is_no_entry :
    ∃ command, (inInstallation .directory).prepare.Answers storeOfInstallation (.ok command) ∧
      (inInstallation .directory).files.present
        ((inInstallation .directory).place "../lib/jxtashell.jar") = true ∧
      command.classpath = "." ∧
      ∀ marker ∈ (inInstallation .directory).settings.markers,
        marker.toList ∉ Text.splitBy (· == ':') command.classpath.toList := by
  have hleads : (installation .directory).Leads FileTree.maxLinks [.text "lib"]
      [.down (.text "jxtashell.jar")] [.text "lib", .text "jxtashell.jar"] :=
    .down rfl (by decide) rfl nofun (.done _ _)
  have hstat := stat_marker hleads rfl
  obtain ⟨command, hcommand, htext⟩ := exists_command_inInstallation hstat
  have hnone : Settings.default.classpathDirs.flatMap
      (Classpath.found ((installation .directory).view []) "/work" .native "jar") = [] :=
    List.flatMap_eq_nil_iff.2 fun dir _ => Classpath.found_eq_nil (by decide)
  have hclasspath : command.classpath = "." := by
    rw [htext, hnone]
    rfl
  refine ⟨command, hcommand, present_iff.2 ⟨_, hstat⟩, hclasspath, ?_⟩
  rw [hclasspath]
  decide

end Launcher

end RuntimeLauncher
