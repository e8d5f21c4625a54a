import RuntimeLauncher.Proofs.Files.Locate
import RuntimeLauncher.Proofs.Launch.Outcome
import RuntimeLauncher.Proofs.Machine.Image

/-!
# Which file was checked, and which one is executed

Before a launch, the runtime's path is resolved against the working directory, and a regular file
has to stand there. The system gets the path as it is spelled. The two mean the same file for some
spellings only.

## Main Definitions

* `twoPrograms`, `launchInRoot` — a launch for which two programs have one name

## Main Statements

* `executes_checked_file_iff` — for which spellings the file that was checked is executed
* `executes_file_not_checked` — a launch that checks one file and executes another

## Design Notes

The working directory is given twice: as the place where the process is, and as a text that the
launch resolves paths against. All that is assumed is that the text denotes the place, as the text
of a place does that a process can stand at (`FileTree.locate_placeText`).
-/

namespace RuntimeLauncher

namespace Launcher

/-! ### Two programs of one name -/

/-- A file that is recognised as a program, and is no text. -/
def programFile : FileNode := .file (.raw [0x7f, 0x45, 0x4c, 0x46, 0xff]) true

/-- One program stands in the root, and one of the same name in a directory of programs. -/
def twoPrograms : FileTree where
  nodes :=
    [([.text "java"], programFile), ([.text "bin"], .directory),
      ([.text "bin", .text "java"], programFile)]

/-- A launch in the root of that tree. -/
def launchInRoot : Launcher where
  settings :=
    { Settings.default with
      runtime := ⟨.localMachine, "k", "v", "h", ""⟩
      proxy := ⟨.currentUser, "k", "v", "p"⟩
      markers := ["java"]
      classpathDirs := []
      overrideKeys := [] }
  environment := fun _ => none
  files := twoPrograms.view []
  workDir := "/"

/-- A store that names a runtime and no proxy. -/
def storeNaming (runtime : String) : Store :=
  (Store.empty.insert .localMachine "k" "v" (.string "1")).insert .localMachine "k\\1" "h"
    (.string runtime)

/-- What the launch comes to with that store. -/
def commandNaming (runtime : String) : Command :=
  ⟨runtime, none, [], ".", launchInRoot.settings.mainClass⟩

/-- The store names the runtime, if it is no longer than a reader accepts. -/
theorem locateRuntime_storeNaming {runtime : String} (hlength : runtime.length ≤ Store.maxLength) :
    (locateRuntime launchInRoot.settings.runtime).Answers (storeNaming runtime) (.ok runtime) := by
  have hbelow : KeyPath.below (KeyPath.normal "k") "1" = KeyPath.normal "k\\1" := by decide
  have hother : Store.Cell.of .localMachine "k" "v" ≠ .of .localMachine "k\\1" "h" := by decide
  have hkey : (storeNaming runtime).cells.hasKey .localMachine (KeyPath.normal "k") = true :=
    Store.Cells.hasKey_put_iff.2 (.inl ⟨rfl, by decide⟩)
  have hinstall : (storeNaming runtime).cells.hasKey .localMachine
      (KeyPath.below (KeyPath.normal "k") "1") = true := by
    rw [hbelow]
    exact Store.Cells.hasKey_put_iff.2 (.inl ⟨rfl, by decide⟩)
  have hversion : Store.Handle.readString
      ⟨(storeNaming runtime).cells, .localMachine, KeyPath.normal "k"⟩ "v" = .ok "1" :=
    Store.Handle.readString_eq_ok_iff.2 ⟨Store.Handle.getString_eq_ok_iff.2
      ((Store.Cells.get?_put_of_ne _ _ hother).trans (Store.Cells.get?_put_self _ _ _)), by decide⟩
  have hhome : Store.Handle.readString ⟨(storeNaming runtime).cells, .localMachine,
      KeyPath.below (KeyPath.normal "k") "1"⟩ "h" = .ok runtime := by
    rw [hbelow]
    exact Store.Handle.readString_eq_ok_iff.2
      ⟨Store.Handle.getString_eq_ok_iff.2 (Store.Cells.get?_put_self _ _ _), hlength⟩
  have h : (locateRuntime launchInRoot.settings.runtime).Answers (storeNaming runtime)
      (.ok (runtime ++ "")) :=
    locateRuntime_answers_ok (Store.grant_eq_ok_iff.2 ⟨hkey, rfl, rfl⟩) hversion
      (Store.grant_eq_ok_iff.2 ⟨hinstall, rfl, rfl⟩) hhome
  rwa [String.append_empty] at h

theorem standing_root : twoPrograms.Standing [] where
  directory front rest h := by rw [(List.append_eq_nil_iff.1 h).1]; rfl
  named _ h := nomatch h
  short := by decide

theorem locate_root : twoPrograms.locate true [] launchInRoot.workDir = .ok [] :=
  FileTree.locate_placeText standing_root []

theorem locate_java : twoPrograms.locate true [] "/java" = .ok [.text "java"] :=
  FileTree.locate_ok_iff.2 ⟨⟨by decide, by decide, by decide⟩,
    .down rfl (by decide) rfl nofun (.done _ _)⟩

theorem locate_bin_java :
    twoPrograms.locate true [] "/bin/java" = .ok [.text "bin", .text "java"] :=
  FileTree.locate_ok_iff.2 ⟨⟨by decide, by decide, by decide⟩,
    .down rfl (by decide) rfl nofun (.down rfl (by decide) rfl nofun (.done _ _))⟩

/-- The launch comes to a command for every runtime that is a file of the tree. -/
theorem launchInRoot_answers {runtime : String} (hlength : runtime.length ≤ Store.maxLength)
    (hrun : launchInRoot.Runnable runtime) :
    launchInRoot.prepare.Answers (storeNaming runtime) (.ok (commandNaming runtime)) := by
  have hlocate := runtimePath_answers_iff.2 (.inl (locateRuntime_storeNaming hlength))
  have hproxy : (resolveProxy launchInRoot.settings.proxy).Answers (storeNaming runtime) none :=
    .withKey_of_error (Store.grant_eq_error_iff.2 ⟨rfl, rfl⟩)
      ((Session.Answers.log (Logged.yields_emit _)).bind (.pure none))
  have hinst : launchInRoot.Installed :=
    ⟨"java", List.mem_singleton_self _, .file, FileTree.stat_file_iff.2 ⟨_, _, _, locate_java, rfl⟩⟩
  obtain ⟨events, hclasspath⟩ := Classpath.build_yields (twoPrograms.view []) "/" .native "jar" []
  exact (Settles.ready runtime hlocate hrun hinst none hproxy _ events hclasspath).answers

/-! ### The file that is checked and the file that is executed -/

variable {tree : FileTree} {cwd : Place} {launcher : Launcher} {store : Store} {command : Command}

/-- **For which spellings the file that was checked is executed.** A path with a slash has to be
free of a slash at its end and must not be too long; resolving it mends both. A path without a slash
is a name that is searched for, and the search may end at any file. -/
theorem executes_checked_file_iff (searchPath : Option String)
    (hfiles : launcher.files = tree.view cwd) (hstyle : launcher.settings.pathStyle = .native)
    (hdir : tree.locate true cwd launcher.workDir = .ok cwd)
    (h : launcher.prepare.Answers store (.ok command)) :
    ∃ place content executable,
      tree.locate true cwd (launcher.place command.runtime) = .ok place ∧
      tree.node? place = some (.file content executable) ∧
      (Image.target? tree cwd searchPath command = some place ↔
        if command.runtime.toList.contains '/' then
          command.runtime.toList.getLast? ≠ some '/' ∧
            command.runtime.utf8ByteSize < FileTree.maxPath
        else
          ∃ path before after,
            Image.candidates searchPath command.runtime = before ++ path :: after ∧
            (∀ earlier ∈ before, Image.passesOver tree cwd
              (command.runtime :: command.arguments) earlier = true) ∧
            Image.passesOver tree cwd (command.runtime :: command.arguments) path = false ∧
            tree.locate true cwd path = .ok place) := by
  have hcommand : launcher.Commands store command :=
    settles_ok_iff.1 (prepare_answers_iff_settles.1 h)
  obtain ⟨hne, hstat⟩ := hcommand.runnable
  rw [hfiles] at hstat
  obtain ⟨place, content, executable, hplace, hnode⟩ := FileTree.stat_file_iff.1 hstat
  refine ⟨place, content, executable, hplace, hnode, ?_⟩
  rw [Image.target?_eq_some_iff]
  split
  · rename_i hslash
    have hfile : tree.isDirectory place = false := by simp [FileTree.isDirectory, hnode]
    rw [Launcher.place, hstyle] at hplace
    -- The system follows the spelling itself.
    rw [← FileTree.locate_ok_iff_of_resolve hdir hne hplace hfile, Image.settled?_of_slash hslash]
    simp
  · rename_i hslash
    refine exists_congr fun path => ?_
    rw [Image.settled?_eq_some_iff (Bool.eq_false_iff.2 hslash)]
    constructor
    · rintro ⟨⟨before, after, hsplit, hbefore, hsettled⟩, hpath⟩
      exact ⟨before, after, hsplit, hbefore, hsettled, hpath⟩
    · rintro ⟨before, after, hsplit, hbefore, hsettled, hpath⟩
      exact ⟨⟨before, after, hsplit, hbefore, hsettled⟩, hpath⟩

/-- With a doubled slash, the file that is checked is executed. -/
theorem executes_checked_file_of_doubled_slash :
    twoPrograms.locate true [] launchInRoot.workDir = .ok [] ∧
    launchInRoot.prepare.Answers (storeNaming "bin//java") (.ok (commandNaming "bin//java")) ∧
    ∃ place content executable,
      twoPrograms.locate true [] (launchInRoot.place "bin//java") = .ok place ∧
      twoPrograms.node? place = some (.file content executable) ∧
      Image.target? twoPrograms [] (some "/bin") (commandNaming "bin//java") = some place := by
  have hrun : launchInRoot.Runnable "bin//java" :=
    ⟨by decide, FileTree.stat_file_iff.2 ⟨_, _, _, locate_bin_java, rfl⟩⟩
  have h := launchInRoot_answers (by decide) hrun
  obtain ⟨place, content, executable, hplace, hnode, hiff⟩ :=
    executes_checked_file_iff (some "/bin") rfl rfl locate_root h
  refine ⟨locate_root, h, place, content, executable, hplace, hnode, hiff.2 ?_⟩
  rw [if_pos (by decide)]
  decide

/-- **A launch that checks one file and executes another.** The name is resolved against the root,
where a program of that name stands, and is then searched for in the directory of programs. -/
theorem executes_file_not_checked :
    twoPrograms.locate true [] launchInRoot.workDir = .ok [] ∧
    launchInRoot.prepare.Answers (storeNaming "java") (.ok (commandNaming "java")) ∧
    twoPrograms.locate true [] (launchInRoot.place "java") = .ok [.text "java"] ∧
    Image.target? twoPrograms [] (some "/bin") (commandNaming "java") =
      some [.text "bin", .text "java"] ∧
    Image.replace twoPrograms [] (some "/bin") (commandNaming "java") =
      .ok ⟨[.text "bin", .text "java"], "java" :: (commandNaming "java").arguments⟩ := by
  have hrun : launchInRoot.Runnable "java" :=
    ⟨by decide, FileTree.stat_file_iff.2 ⟨_, _, _, locate_java, rfl⟩⟩
  have hcandidates : Image.candidates (some "/bin") "java" = ["/bin/java"] := by decide
  have hload : Image.loadOrInterpret twoPrograms [] "/bin/java"
      ("java" :: (commandNaming "java").arguments) =
        .ok ⟨[.text "bin", .text "java"], "java" :: (commandNaming "java").arguments⟩ := by
    rw [Image.loadOrInterpret, Image.load, Image.loadWithin, Image.openProgram, locate_bin_java]
    decide
  refine ⟨locate_root, launchInRoot_answers (by decide) hrun, locate_java, ?_, ?_⟩
  · have hsettled : Image.settled? twoPrograms [] (some "/bin") "java"
        ("java" :: (commandNaming "java").arguments) = some "/bin/java" :=
      (Image.settled?_eq_some_iff (by decide)).2
        ⟨[], [], hcandidates, by simp, by simp [Image.passesOver, hload]⟩
    exact Image.target?_eq_some_iff.2 ⟨"/bin/java", hsettled, locate_bin_java⟩
  · have hfind : Image.find twoPrograms [] (some "/bin") "java"
        ("java" :: (commandNaming "java").arguments) =
          .ok ⟨[.text "bin", .text "java"], "java" :: (commandNaming "java").arguments⟩ := by
      rw [Image.find, if_neg (by decide), if_neg (by decide), if_neg (by decide), hcandidates,
        Image.tryAll, hload]
    exact Image.replace_ok_iff.2 ⟨by decide, hfind⟩

end Launcher

end RuntimeLauncher
