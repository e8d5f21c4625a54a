import Mathlib.Data.List.Nodup
import RuntimeLauncher.Proofs.Files.Listing

/-!
# What every file tree keeps to

A file tree is held as a row of places with their nodes, and rows of two kinds are no file system:
those that hold a place twice, and those that hold a name which means the directory above. Trees
that were made from the empty one are neither, since a node takes the stead of one at the same place
and a step with two dots leads up.

## Main Definitions

* `FileTree.Regular` — a place is held once, and no name is that of the directory above
* `FileTree.Made` — the trees that changes make of the empty one
* `Files.Lists` — listings are those of a tree, each in some order

## Main Statements

* `put_cases` — all that putting a node into a tree can do
* `Regular.put`, `Regular.remove`, `Made.regular` — changes of a tree keep it regular
* `Regular.node?_eq_some_iff` — a node that is held at a place is the one that stands there
* `Regular.names_nodup` — the names in a directory differ
* `view_lists` — a tree lists what it holds
-/

namespace RuntimeLauncher

namespace FileTree

variable {tree changed : FileTree} {place r : Place} {links : Nat} {steps : List Step}

/-- **A row of nodes that is a file system.** -/
structure Regular (tree : FileTree) : Prop where
  distinct : (tree.nodes.map Prod.fst).Nodup
  no_parent : ∀ entry ∈ tree.nodes, .text ".." ∉ entry.1

/-! ### Steps with two dots lead up -/

theorem Step.ofName_ne_down_parent (name : List Char) : Step.ofName name ≠ .down (.text "..") := by
  intro h
  rw [Step.ofName] at h
  split at h
  · cases h
  · split at h
    · cases h
    · rename_i hname
      have htext : String.ofList name = ".." := by simpa using h
      exact hname (by simpa using congrArg String.toList htext)

theorem down_parent_not_mem_stepsOf (path : List Char) :
    Step.down (.text "..") ∉ stepsOf path := by
  rw [stepsOf_eq]
  intro h
  rcases List.mem_append.1 h with hname | hend
  · obtain ⟨name, -, hname⟩ := List.mem_map.1 hname
    exact Step.ofName_ne_down_parent name hname
  · split at hend <;> simp at hend

theorem down_parent_not_mem_stepsOfBytes (path : List UInt8) :
    Step.down (.text "..") ∉ stepsOfBytes path := by
  unfold stepsOfBytes
  cases Octets.ofBytes path with
  | text path => exact down_parent_not_mem_stepsOf path.toList
  | raw bytes =>
    intro h
    obtain ⟨name, -, hname⟩ := List.mem_map.1 h
    split at hname
    · exact Step.ofName_ne_down_parent _ hname
    · cases hname

theorem no_parent_concat {name : Octets} (hplace : .text ".." ∉ place)
    (hname : name ≠ .text "..") : .text ".." ∉ place ++ [name] := by
  simpa [hplace] using hname.symm

/-- Where steps lead, no name is that of the directory above. -/
theorem Leads.no_parent (h : tree.Leads links place steps r) (hplace : .text ".." ∉ place)
    (hsteps : .down (.text "..") ∉ steps) : .text ".." ∉ r := by
  induction h with
  | done => exact hplace
  | here hdir h ih => exact ih hplace (List.not_mem_of_not_mem_cons hsteps)
  | up hdir h ih =>
    exact ih (fun hmem => hplace (List.dropLast_subset _ hmem))
      (List.not_mem_of_not_mem_cons hsteps)
  | @down _ _ _ _ name _ hdir hname hnode hlink h ih =>
    have hstep : name ≠ .text ".." := by
      rintro rfl
      exact hsteps List.mem_cons_self
    exact ih (no_parent_concat hplace hstep) (List.not_mem_of_not_mem_cons hsteps)
  | @link _ place _ rest _ target hdir hname hnode h ih =>
    refine ih ?_ ?_
    · -- The target starts at the root or where the link stands.
      unfold origin
      split
      · exact List.not_mem_nil
      · exact hplace
    · intro hmem
      rcases List.mem_append.1 hmem with hmem | hmem
      · exact down_parent_not_mem_stepsOf _ hmem
      · exact hsteps (List.mem_cons_of_mem _ hmem)

/-! ### Changes keep a tree regular -/

theorem regular_empty : empty.Regular := ⟨List.nodup_nil, nofun⟩

theorem Regular.setNode (h : tree.Regular) (hplace : .text ".." ∉ place) (node : FileNode) :
    (tree.setNode place node).Regular := by
  have hsub : (tree.nodes.filter fun entry => entry.1 != place).Sublist tree.nodes :=
    List.filter_sublist
  refine ⟨?_, ?_⟩
  · rw [FileTree.setNode, List.map_append, List.map_cons, List.map_nil, ← List.concat_eq_append]
    refine List.Nodup.concat ?_ (h.distinct.sublist (hsub.map _))
    intro hmem
    obtain ⟨entry, hentry, heq⟩ := List.mem_map.1 hmem
    simpa [heq] using (List.mem_filter.1 hentry).2
  · intro entry hentry
    rcases List.mem_append.1 hentry with hold | hnew
    · exact h.no_parent entry (hsub.subset hold)
    · rw [List.mem_singleton.1 hnew]
      exact hplace

theorem Regular.dropNode (h : tree.Regular) (place : Place) : (tree.dropNode place).Regular := by
  have hsub : (tree.dropNode place).nodes.Sublist tree.nodes := List.filter_sublist
  exact ⟨h.distinct.sublist (hsub.map _), fun entry hentry =>
    h.no_parent entry (hsub.subset hentry)⟩

/-- Directories are made at places without a name for the directory above. -/
theorem Regular.makeDirs (h : tree.Regular) (hplace : .text ".." ∉ place)
    (hsteps : .down (.text "..") ∉ steps)
    (hmake : tree.makeDirs place steps = .ok (changed, r)) :
    changed.Regular ∧ .text ".." ∉ r := by
  induction steps generalizing tree place with
  | nil =>
    rw [FileTree.makeDirs] at hmake
    split at hmake
    · obtain ⟨rfl, rfl⟩ : tree = changed ∧ place = r := by simpa using hmake
      exact ⟨h, hplace⟩
    · cases hmake
  | cons step rest ih =>
    have hstep := List.ne_of_not_mem_cons hsteps
    have hrest := List.not_mem_of_not_mem_cons hsteps
    rw [FileTree.makeDirs] at hmake
    split at hmake
    · rename_i next hwalk
      have hnext := (leads_of_walk_ok hwalk).no_parent hplace (by simpa using hstep)
      exact ih h hnext hrest hmake
    · cases step with
      | here | up => cases hmake
      | down name =>
        have hname : name ≠ .text ".." := by
          rintro rfl
          exact hstep rfl
        have hbelow := no_parent_concat hplace hname
        dsimp only at hmake
        split at hmake
        · exact ih (h.setNode hbelow .directory) hbelow hrest hmake
        · cases hmake

/-- What putting a node does behind the directories that it makes: nothing without a name, one more
directory, or a node at the name's place or where a link leads from there. -/
theorem put_cases {node : FileNode} (hput : tree.put place steps node = .ok changed) :
    ∃ between above, tree.makeDirs place steps.dropLast = .ok (between, above) ∧
      (changed = between ∨ ∃ name, steps.getLast? = some (.down name) ∧
        ((∃ r, between.makeDirs above [.down name] = .ok (changed, r)) ∨
          ∃ there, changed = between.setNode there node ∧
            (there = above ++ [name] ∨
              between.walk true maxLinks above [.down name] = .ok there))) := by
  simp only [FileTree.put, bind, Except.bind] at hput
  split at hput
  · cases hput
  · rename_i made hmake
    obtain ⟨between, above⟩ := made
    refine ⟨between, above, hmake, ?_⟩
    split at hput
    · rename_i name hlast
      refine .inr ⟨name, hlast, .inl ?_⟩
      split at hput
      · cases hput
      · rename_i last hlastMake
        obtain rfl := Except.ok.inj hput
        exact ⟨last.2, hlastMake⟩
    · rename_i name hlast _
      refine .inr ⟨name, hlast, .inr ?_⟩
      split at hput
      · rename_i there _ _ hwalk _
        exact ⟨there, (Except.ok.inj hput).symm, .inr hwalk⟩
      · exact ⟨_, (Except.ok.inj hput).symm, .inl rfl⟩
    · exact .inl (Except.ok.inj hput).symm

/-- **Putting a node into a tree keeps it regular.** -/
theorem Regular.put (h : tree.Regular) {node : FileNode} (hplace : .text ".." ∉ place)
    (hsteps : .down (.text "..") ∉ steps) (hput : tree.put place steps node = .ok changed) :
    changed.Regular := by
  obtain ⟨between, above, hmake, hlast⟩ := put_cases hput
  obtain ⟨hbetween, habove⟩ := h.makeDirs hplace
    (fun hmem => hsteps (List.dropLast_subset _ hmem)) hmake
  obtain rfl | ⟨name, hlast, hcase⟩ := hlast
  · exact hbetween
  · have hname : name ≠ .text ".." := by
      rintro rfl
      exact hsteps (List.mem_of_getLast? hlast)
    have hstep : Step.down (.text "..") ∉ [.down name] := by simpa using hname.symm
    obtain ⟨r, hmake⟩ | ⟨there, rfl, rfl | hwalk⟩ := hcase
    · exact (hbetween.makeDirs habove hstep hmake).1
    · exact hbetween.setNode (no_parent_concat habove hname) node
    · exact hbetween.setNode ((leads_of_walk_ok hwalk).no_parent habove hstep) node

/-- **Taking a node away keeps a tree regular.** -/
theorem Regular.remove (h : tree.Regular) (hremove : tree.remove place steps = .ok changed) :
    changed.Regular := by
  simp only [FileTree.remove, bind, Except.bind] at hremove
  split at hremove
  · cases hremove
  · obtain rfl := Except.ok.inj hremove
    exact h.dropNode _

/-- The trees that changes along paths make of the empty tree. -/
inductive Made : FileTree → Prop where
  | empty : Made empty
  | put {tree changed : FileTree} {place : Place} (path : List UInt8) {node : FileNode}
      (h : Made tree) (hplace : .text ".." ∉ place)
      (hput : tree.put place (stepsOfBytes path) node = .ok changed) : Made changed
  | remove {tree changed : FileTree} {place : Place} {steps : List Step}
      (h : Made tree) (hremove : tree.remove place steps = .ok changed) : Made changed

/-- **Trees that changes make are regular.** -/
theorem Made.regular (h : tree.Made) : tree.Regular := by
  induction h with
  | empty => exact regular_empty
  | put path h hplace hput ih => exact ih.put hplace (down_parent_not_mem_stepsOfBytes path) hput
  | remove h hremove ih => exact ih.remove hremove

/-! ### Listings -/

/-- A node that is held at a place is the one that stands there. -/
theorem Regular.node?_eq_some_iff (h : tree.Regular) {node : FileNode} (hne : place ≠ []) :
    tree.node? place = some node ↔ (place, node) ∈ tree.nodes := by
  rw [node?, if_neg (by simpa using hne)]
  exact Sorted.lookup_eq_some_iff_mem h.distinct

/-- No name in a directory is that of the directory above. -/
theorem Regular.name_ne_parent (h : tree.Regular) {name : String} {node : FileNode}
    (hmem : (place ++ [.text name], node) ∈ tree.nodes) : name ≠ ".." := by
  rintro rfl
  exact h.no_parent _ hmem (by simp)

/-- The entries below a place are held below it, in the order of the tree. -/
theorem entriesAt_places_sublist (tree : FileTree) (place : Place) :
    ((tree.entriesAt place).map fun entry => place ++ [entry.name]).Sublist
      (tree.nodes.map Prod.fst) := by
  rw [entriesAt]
  induction tree.nodes with
  | nil => exact .slnil
  | cons node rest ih =>
    rw [List.filterMap_cons, List.map_cons]
    split
    · exact ih.cons _
    · rename_i line hline
      have hplace : node.1 = place ++ [line.name] := by
        split at hline
        · split at hline
          · rename_i hthere
            obtain rfl := Option.some_inj.1 hline
            exact hthere
          · cases hline
        · cases hline
      rw [List.map_cons, hplace]
      exact ih.cons_cons _

/-- The names in a directory differ. -/
theorem Regular.names_nodup (h : tree.Regular) (place : Place) :
    ((tree.entriesAt place).map Files.Entry.name).Nodup := by
  have hplaces := h.distinct.sublist (tree.entriesAt_places_sublist place)
  refine List.Nodup.of_map (fun name => place ++ [name]) ?_
  rwa [List.map_map]

end FileTree

/-- **The listings are those of a tree, each in some order.** A directory may also refuse to be
listed. -/
def Files.Lists (files : Files) (tree : FileTree) (cwd : Place) : Prop :=
  ∀ path listing, files.list path = .ok listing → ∃ place,
    tree.locate true cwd path = .ok place ∧ tree.isDirectory place = true ∧
      listing.Perm (tree.entriesAt place)

/-- A tree lists what it holds. -/
theorem FileTree.view_lists (tree : FileTree) (cwd : Place) : (tree.view cwd).Lists tree cwd := by
  intro path listing hlist
  obtain ⟨place, hplace, hdir, rfl⟩ := FileTree.list_eq_ok_iff.1 hlist
  exact ⟨place, hplace, hdir, List.mergeSort_perm _ _⟩

end RuntimeLauncher
