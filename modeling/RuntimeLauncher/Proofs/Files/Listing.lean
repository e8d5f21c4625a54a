import RuntimeLauncher.Proofs.Files.Locate
import RuntimeLauncher.Proofs.Path.Components
import RuntimeLauncher.Proofs.Store.Sorted

/-!
# What is seen at a path, and what is listed

There are two ways to see a file: to ask for its path, and to list the directory that it stands in.
The one follows a link at the end of the path and the other does not. They agree on what stands
there: a path that something is seen at, at the end of all links, has its name in the listing of its
directory, with the kind of what stands at the path itself.

## Main Definitions

* `FileTree.Stands` — what stands at a path itself

## Main Statements

* `stepsOf_join` — the steps of a path below a directory are those of the directory and one more
* `Leads.walk_below` — a walk that does not follow the last link stops at it
* `exists_listed_of_stat` — what is seen at a path is listed in its directory
* `exists_of_mem_list` — what is listed stands in the tree

## Design Notes

The link at the end of a path may lead to a directory or to nothing. In the listing it is a link
either way, and only the path tells where it leads.
-/

namespace RuntimeLauncher.FileTree

variable {tree : FileTree} {cwd place q r : Place} {links : Nat} {base name : String}
  {steps : List Step}

/-- This stands at the path itself. A link at the end of the path is not followed. -/
def Stands (tree : FileTree) (cwd : Place) (path : String) (node : FileNode) : Prop :=
  ∃ place, tree.locate false cwd path = .ok place ∧ tree.node? place = some node

/-! ### The last step of a walk -/

/-- One step down leads to a node of the directory. -/
theorem Leads.exists_node {name : Octets} (h : tree.Leads links q [.down name] r) :
    tree.isDirectory q = true ∧ name.size ≤ maxName ∧
      ∃ node, tree.node? (q ++ [name]) = some node := by
  cases h with
  | down hdir hname hnode hlink h => exact ⟨hdir, hname, _, hnode⟩
  | link hdir hname hnode h => exact ⟨hdir, hname, _, hnode⟩

/-- **A walk that does not follow the last link stops at it.** The links before it are followed. -/
theorem Leads.walk_below {name : Octets} {node : FileNode} (h : tree.Leads links place steps q)
    (hdir : tree.isDirectory q = true) (hname : name.size ≤ maxName)
    (hnode : tree.node? (q ++ [name]) = some node) :
    tree.walk false links place (steps ++ [.down name]) = .ok (q ++ [name]) := by
  induction h with
  | done links place =>
    rw [List.nil_append, walk, hdir]
    simp only [Nat.not_lt.2 hname, hnode]
    cases node with
    | link target => rfl
    | directory => rw [walk]; rfl
    | file content executable => rw [walk]; rfl
  | here hhere h ih =>
    rw [List.cons_append, walk, hhere]
    exact ih hdir hnode
  | up hup h ih =>
    rw [List.cons_append, walk, hup]
    exact ih hdir hnode
  | @down _ _ _ _ _ other hdown hsize hother hlink h ih =>
    rw [List.cons_append, walk, hdown]
    simp only [Nat.not_lt.2 hsize, hother]
    cases other with
    | link target => exact absurd rfl (hlink target)
    | directory => exact ih hdir hnode
    | file content executable => exact ih hdir hnode
  | link hdown hsize hother h ih =>
    -- A step is still left behind this link, so it is not the last one and is followed.
    rw [List.cons_append, walk, hdown]
    simp only [Nat.not_lt.2 hsize, hother]
    simpa [origin] using ih hdir hnode

/-- A step to stand still can be put behind steps that lead to a directory. -/
theorem Leads.concat_here (h : tree.Leads links place steps q) (hdir : tree.isDirectory q = true) :
    tree.Leads links place (steps ++ [.here]) q := by
  induction h with
  | done links place => exact leads_here_iff.2 ⟨rfl, hdir⟩
  | here hhere h ih => exact .here hhere (ih hdir)
  | up hup h ih => exact .up hup (ih hdir)
  | down hdown hname hnode hlink h ih => exact .down hdown hname hnode hlink (ih hdir)
  | link hdown hname hnode h ih =>
    have hsteps := ih hdir
    rw [List.append_assoc] at hsteps
    exact .link hdown hname hnode hsteps

/-- A path whose names lead to a directory leads there, with or without a slash at its end. -/
theorem leads_stepsOf {path : List Char}
    (h : tree.Leads links place ((Path.names path).map Step.ofName) q)
    (hdir : tree.isDirectory q = true) : tree.Leads links place (stepsOf path) q := by
  rw [stepsOf_eq]
  split
  · exact h.concat_here hdir
  · rw [List.append_nil]
    exact h

/-! ### A path below a directory -/

/-- The steps of a path below a directory are those of the directory and one more. -/
theorem stepsOf_join (base : String) (h : IsName name) :
    stepsOf (Path.join base name).toList =
      (Path.names base.toList).map Step.ofName ++ [.down (.text name)] := by
  have hlast : (Path.join base name).toList.getLast? ≠ some '/' := by
    obtain ⟨middle, hjoin⟩ := Path.exists_joinChars_eq base.toList h.piece
    rw [Path.join, String.toList_ofList, hjoin]
    exact getLast?_ne_slash h.piece _
  rw [stepsOf_eq, if_neg hlast, Path.names_join base h.piece, List.map_append, List.append_nil]
  exact congrArg _ (congrArg (fun step => [step]) h.ofName_eq)

/-- Below a directory, a path starts where the directory does. -/
theorem origin_join (base : String) (h : IsName name) (cwd : Place) :
    origin (Path.join base name).toList cwd = origin base.toList cwd :=
  origin_eq (Path.isAbsolute_join base h.piece) cwd

/-- The text in front of a path is a path. -/
theorem isPath_of_join (hbase : base ≠ "") (h : IsName name)
    (hpath : IsPath (Path.join base name)) : IsPath base := by
  have hjoin := Path.join_of_isPiece base h.piece
  refine ⟨fun hnull => hpath.not_null ?_, hbase, ?_⟩
  · rw [hjoin]
    split <;> simp [hnull]
  · have hshort := hpath.short
    rw [hjoin] at hshort
    split at hshort <;> simp only [String.utf8ByteSize_append] at hshort <;> omega

/-- What stands below a directory that the path in front leads to. -/
theorem stands_join {node : FileNode} (h : IsName name) (hpath : IsPath (Path.join base name))
    (hfront : tree.Leads maxLinks (origin base.toList cwd)
      ((Path.names base.toList).map Step.ofName) q)
    (hdir : tree.isDirectory q = true) (hsize : (Octets.text name).size ≤ maxName)
    (hnode : tree.node? (q ++ [.text name]) = some node) :
    tree.Stands cwd (Path.join base name) node := by
  have hwalk := hfront.walk_below hdir hsize hnode
  rw [← stepsOf_join base h, ← origin_join base h] at hwalk
  refine ⟨q ++ [.text name], ?_, hnode⟩
  simp only [locate, checkPath_ok_iff.2 hpath, bind, Except.bind]
  exact hwalk

theorem Stands.unique {path : String} {node other : FileNode} (h : tree.Stands cwd path node)
    (h' : tree.Stands cwd path other) : node = other := by
  obtain ⟨place, hplace, hnode⟩ := h
  obtain ⟨there, hthere, hother⟩ := h'
  obtain rfl : place = there := Except.ok.inj (hplace.symm.trans hthere)
  exact Option.some_inj.1 (hnode.symm.trans hother)

/-! ### What is listed -/

theorem kindOf_eq_directory_iff {node : FileNode} :
    kindOf node = .directory ↔ node = .directory := by
  cases node <;> simp [kindOf]

theorem exists_locate_of_stat {path : String} {kind : Files.Kind}
    (h : tree.stat cwd path = .ok kind) : ∃ place, tree.locate true cwd path = .ok place := by
  cases hplace : tree.locate true cwd path with
  | ok place => exact ⟨place, rfl⟩
  | error e => simp [stat, hplace, bind, Except.bind] at h

theorem stat_of_locate {path : String} {node : FileNode}
    (hplace : tree.locate true cwd path = .ok place) (hnode : tree.node? place = some node) :
    tree.stat cwd path = .ok (kindOf node) := by
  simp [stat, hplace, hnode, bind, Except.bind, pure, Except.pure]

theorem list_eq_ok_iff {path : String} {listing : List Files.Entry} :
    tree.list cwd path = .ok listing ↔ ∃ place, tree.locate true cwd path = .ok place ∧
      tree.isDirectory place = true ∧ listing = (tree.entriesAt place).mergeSort nameLE := by
  simp only [list, bind, Except.bind]
  cases tree.locate true cwd path with
  | error e => simp
  | ok place =>
    cases hdir : tree.isDirectory place with
    | true => simpa [hdir, pure, Except.pure] using eq_comm
    | false => simp [hdir, throw, throwThe, MonadExceptOf.throw]

/-- The entries below a place are those of the nodes that stand there. -/
theorem mem_entriesAt_iff {entry : Files.Entry} : entry ∈ tree.entriesAt place ↔
    ∃ node, (place ++ [entry.name], node) ∈ tree.nodes ∧ entry.kind = kindOf node := by
  simp only [entriesAt, List.mem_filterMap]
  constructor
  · rintro ⟨⟨there, node⟩, hmem, hline⟩
    split at hline
    · split at hline
      · rename_i name _ hthere
        obtain rfl := Option.some_inj.1 hline
        obtain rfl : there = place ++ [name] := hthere
        exact ⟨node, hmem, rfl⟩
      · cases hline
    · cases hline
  · obtain ⟨name, kind⟩ := entry
    rintro ⟨node, hmem, rfl⟩
    refine ⟨_, hmem, ?_⟩
    rw [List.getLast?_concat]
    exact if_pos rfl

/-- What is listed stands in the tree. -/
theorem exists_of_mem_list {path : String} {listing : List Files.Entry} {entry : Files.Entry}
    (h : tree.list cwd path = .ok listing) (hentry : entry ∈ listing) :
    ∃ place node, (place ++ [entry.name], node) ∈ tree.nodes ∧ entry.kind = kindOf node := by
  obtain ⟨place, -, -, rfl⟩ := list_eq_ok_iff.1 h
  exact ⟨place, mem_entriesAt_iff.1 (List.mem_mergeSort.1 hentry)⟩

/-- **What is seen at a path is listed in its directory,** with the kind of what stands at the path
itself. -/
theorem exists_listed_of_stat {kind : Files.Kind} (hbase : base ≠ "") (h : IsName name)
    (hstat : tree.stat cwd (Path.join base name) = .ok kind) :
    ∃ node listing, tree.Stands cwd (Path.join base name) node ∧
      tree.list cwd base = .ok listing ∧ ⟨.text name, kindOf node⟩ ∈ listing := by
  obtain ⟨r, hlocate⟩ := exists_locate_of_stat hstat
  obtain ⟨hpath, hleads⟩ := locate_ok_iff.1 hlocate
  rw [origin_join base h, stepsOf_join base h] at hleads
  -- The walk passes the directory. Both what stands below it and the listing are taken from there.
  obtain ⟨q, hfront, hlast⟩ := hleads.split
  obtain ⟨hdir, hsize, node, hnode⟩ := hlast.exists_node
  have hstands := stands_join h hpath hfront hdir hsize hnode
  have hbelow : tree.locate true cwd base = .ok q :=
    locate_ok_iff.2 ⟨isPath_of_join hbase h hpath, leads_stepsOf hfront hdir⟩
  have hmem : (q ++ [.text name], node) ∈ tree.nodes := by
    rw [node?, if_neg (by simp)] at hnode
    exact Sorted.mem_of_lookup hnode
  exact ⟨node, _, hstands, list_eq_ok_iff.2 ⟨q, hbelow, hdir, rfl⟩,
    List.mem_mergeSort.2 (mem_entriesAt_iff.2 ⟨node, hmem, rfl⟩)⟩

end RuntimeLauncher.FileTree
