import RuntimeLauncher.Machine.Image
import RuntimeLauncher.Proofs.Files.Walk

/-!
# Which file replaces a process

A name with a slash is a path. For any other name the system tries one path after another and
settles on the first that is not passed over. What it then loads is an executable file at the end of
that path, or interpreters in front of it.

## Main Definitions

* `Image.passesOver` — the search for a program goes on after a path
* `Image.settled?` — the path that the search for a program settles on
* `Image.target?` — the place of the file that the system is asked to execute

## Main Statements

* `target?_eq_some_iff`, `settled?_eq_some_iff` — the target by the paths that are tried
* `settled?_of_find_ok` — the search loads what the settled path leads to
* `target?_of_replace_ok` — whatever replaces the process, its target is an executable file
-/

namespace RuntimeLauncher.Image

variable {tree : FileTree} {cwd : Place} {arguments : List String} {image : Image}

/-- The search for a program goes on after this path. -/
def passesOver (tree : FileTree) (cwd : Place) (arguments : List String) (path : String) : Bool :=
  match loadOrInterpret tree cwd path arguments with
  | .ok _ => false
  | .error e => isPassable e

/-- The path that the search for a program settles on. -/
def settled? (tree : FileTree) (cwd : Place) (searchPath : Option String) (name : String)
    (arguments : List String) : Option String :=
  if name.toList.contains '/' then some name
  else (candidates searchPath name).find? fun path => !passesOver tree cwd arguments path

/-- The place of the file that the system is asked to execute for a command. -/
def target? (tree : FileTree) (cwd : Place) (searchPath : Option String) (command : Command) :
    Option Place :=
  (settled? tree cwd searchPath command.runtime (command.runtime :: command.arguments)).bind
    fun path => (tree.locate true cwd path).toOption

theorem target?_eq_some_iff {searchPath : Option String} {command : Command} {place : Place} :
    target? tree cwd searchPath command = some place ↔
      ∃ path, settled? tree cwd searchPath command.runtime
          (command.runtime :: command.arguments) = some path ∧
        tree.locate true cwd path = .ok place := by
  rw [target?, Option.bind_eq_some_iff]
  refine exists_congr fun path => and_congr_right fun _ => ?_
  cases tree.locate true cwd path <;> simp [Except.toOption]

/-- A name with a slash is the path itself. -/
theorem settled?_of_slash {searchPath : Option String} {name : String}
    (hslash : name.toList.contains '/' = true) :
    settled? tree cwd searchPath name arguments = some name :=
  if_pos hslash

/-- For any other name, the search settles on the first path that is not passed over. -/
theorem settled?_eq_some_iff {searchPath : Option String} {name path : String}
    (hslash : name.toList.contains '/' = false) :
    settled? tree cwd searchPath name arguments = some path ↔
      ∃ before after, candidates searchPath name = before ++ path :: after ∧
        (∀ earlier ∈ before, passesOver tree cwd arguments earlier = true) ∧
        passesOver tree cwd arguments path = false := by
  rw [settled?, hslash, if_neg Bool.false_ne_true, List.find?_eq_some_iff_append]
  constructor
  · rintro ⟨hpath, before, after, hsplit, hbefore⟩
    exact ⟨before, after, hsplit, by simpa using hbefore, by simpa using hpath⟩
  · rintro ⟨before, after, hsplit, hbefore, hpath⟩
    exact ⟨by simpa using hpath, before, after, hsplit, by simpa using hbefore⟩

/-- A row of paths is tried up to the first one that is not passed over. -/
theorem tryAll_ok_iff {worst : Failure} {paths : List String} :
    tryAll tree cwd arguments worst paths = .ok image ↔
      ∃ path, paths.find? (fun path => !passesOver tree cwd arguments path) = some path ∧
        loadOrInterpret tree cwd path arguments = .ok image := by
  -- What the search would fail with changes along the paths, and never matters to success.
  induction paths generalizing worst with
  | nil => simp [tryAll]
  | cons path rest ih =>
    rw [tryAll, List.find?_cons]
    cases h : loadOrInterpret tree cwd path arguments with
    | ok found => simp [passesOver, h]
    | error e =>
      cases hpass : isPassable e with
      | true => simp [passesOver, h, hpass, ih]
      | false => simp [passesOver, h, hpass]

/-- **The search for a program loads what the settled path leads to.** -/
theorem settled?_of_find_ok {searchPath : Option String} {name : String}
    (h : find tree cwd searchPath name arguments = .ok image) :
    ∃ path, settled? tree cwd searchPath name arguments = some path ∧
      loadOrInterpret tree cwd path arguments = .ok image := by
  unfold find at h
  split at h
  · cases h
  · split at h
    · rename_i hslash
      exact ⟨name, if_pos hslash, h⟩
    · rename_i hslash
      split at h
      · cases h
      · obtain ⟨path, hpath, hload⟩ := tryAll_ok_iff.1 h
        exact ⟨path, by rw [settled?, if_neg hslash, hpath], hload⟩

/-! ### The file that is opened -/

/-- A program is opened only as an executable file. -/
theorem openProgram_ok {path : String} {place : Place} {content : Octets}
    (h : openProgram tree cwd path = .ok (place, content)) :
    tree.locate true cwd path = .ok place ∧ tree.node? place = some (.file content true) := by
  simp only [openProgram, bind, Except.bind] at h
  split at h
  · cases h
  · rename_i there hplace
    split at h
    · rename_i hnode
      cases h
      exact ⟨hplace, hnode⟩
    · cases h
    · cases h

/-- A walk never fails for the format of a file. -/
theorem walk_ne_notExecutable {last : Bool} {links : Nat} {place : Place}
    {steps : List FileTree.Step} :
    tree.walk last links place steps ≠ .error .notExecutable := by
  intro h
  fun_induction tree.walk last links place steps with
  | case3 links place rest hdir ih => exact ih h
  | case4 links place rest hdir ih => exact ih h
  | case9 place rest hdir name hname target hnode hlast links start ih => exact ih h
  | case10 links place rest hdir name hname node hlink hnode ih => exact ih h
  | _ => cases h

theorem locate_ne_notExecutable {last : Bool} {path : String} :
    tree.locate last cwd path ≠ .error .notExecutable := by
  simp only [FileTree.locate, FileTree.checkPath]
  split
  · nofun
  · split
    · nofun
    · split
      · nofun
      · exact walk_ne_notExecutable

theorem openProgram_ne_notExecutable {path : String} :
    openProgram tree cwd path ≠ .error .notExecutable := by
  rw [openProgram]
  cases hplace : tree.locate true cwd path with
  | error e =>
    intro h
    exact locate_ne_notExecutable (hplace.trans (congrArg Except.error (Except.error.inj h)))
  | ok place =>
    simp only [bind, Except.bind]
    split
    · nofun
    · nofun
    · nofun

/-- Loading starts with opening the file at the path. -/
theorem loadWithin_of_openProgram_error {depth : Nat} {path : String} {e : Failure}
    (h : openProgram tree cwd path = .error e) :
    loadWithin tree cwd depth path arguments = .error e := by
  rw [loadWithin, h]
  rfl

/-- What is loaded for a path, even by the shell, is there because of an executable file at it. -/
theorem exists_of_loadOrInterpret_ok {path : String}
    (h : loadOrInterpret tree cwd path arguments = .ok image) :
    ∃ place content, tree.locate true cwd path = .ok place ∧
      tree.node? place = some (.file content true) := by
  cases hopen : openProgram tree cwd path with
  | ok opened => exact ⟨opened.1, opened.2, openProgram_ok hopen⟩
  | error e =>
    -- The shell stands in for a file of unknown format only, and such a file was opened.
    have hformat : e ≠ .notExecutable := by
      rintro rfl
      exact openProgram_ne_notExecutable hopen
    rw [loadOrInterpret, load, loadWithin_of_openProgram_error hopen] at h
    simp [hformat] at h

/-- If everything can be passed on, the process is replaced by what the search finds. -/
theorem replace_ok_iff {searchPath : Option String} {command : Command} :
    replace tree cwd searchPath command = .ok image ↔
      (command.runtime :: command.arguments).all isPassedOn = true ∧
        find tree cwd searchPath command.runtime (command.runtime :: command.arguments) =
          .ok image := by
  simp only [replace]
  split
  · rename_i hpassed
    cases find tree cwd searchPath command.runtime (command.runtime :: command.arguments) with
    | error e => exact ⟨nofun, fun h => nomatch h.2⟩
    | ok found =>
      refine ⟨fun h => ⟨hpassed, ?_⟩, fun h => ?_⟩
      · cases h
        rfl
      · cases h.2
        rfl
  · rename_i hpassed
    exact ⟨nofun, fun h => absurd h.1 hpassed⟩

/-- **Whatever replaces the process, its target is an executable file.** -/
theorem target?_of_replace_ok {searchPath : Option String} {command : Command}
    (h : replace tree cwd searchPath command = .ok image) :
    ∃ place content, target? tree cwd searchPath command = some place ∧
      tree.node? place = some (.file content true) := by
  obtain ⟨path, hsettled, hload⟩ := settled?_of_find_ok (replace_ok_iff.1 h).2
  obtain ⟨place, content, hplace, hnode⟩ := exists_of_loadOrInterpret_ok hload
  exact ⟨place, content, target?_eq_some_iff.2 ⟨path, hsettled, hplace⟩, hnode⟩

end RuntimeLauncher.Image
