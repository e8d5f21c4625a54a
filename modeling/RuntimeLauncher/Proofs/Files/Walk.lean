import RuntimeLauncher.Files.Tree

/-!
# Walks through a file tree

A walk follows one step after another, and a link puts the steps of its target in front of those
that are left. So a walk along two rows of steps is a walk along the first and then one along the
second. The supply of links is what the two share.

## Main Definitions

* `FileTree.Leads` — where steps lead when every link is followed, as rules

## Main Statements

* `walk_ok_iff_leads` — the walk follows the rules
* `Leads.unique` — steps lead to one place at most, whatever the supply of links
* `Leads.split` — steps lead through the end of each of their first parts

## Design Notes

Nothing is said about walks that fail. Which of several reasons a walk meets first depends on the
supply of links, and where it leads does not.
-/

namespace RuntimeLauncher.FileTree

/-- Where a path goes on from: the root if it starts with a slash. -/
def origin (path : List Char) (place : Place) : Place :=
  if path.head? = some '/' then [] else place

/-- The steps lead from one place to another, with at most so many links on the way. -/
inductive Leads (tree : FileTree) : Nat → Place → List Step → Place → Prop where
  | done (links : Nat) (place : Place) : Leads tree links place [] place
  | here {links : Nat} {place r : Place} {rest : List Step}
      (hdir : tree.isDirectory place = true) (h : Leads tree links place rest r) :
      Leads tree links place (.here :: rest) r
  | up {links : Nat} {place r : Place} {rest : List Step}
      (hdir : tree.isDirectory place = true) (h : Leads tree links place.dropLast rest r) :
      Leads tree links place (.up :: rest) r
  | down {links : Nat} {place r : Place} {rest : List Step} {name : Octets} {node : FileNode}
      (hdir : tree.isDirectory place = true) (hname : name.size ≤ maxName)
      (hnode : tree.node? (place ++ [name]) = some node) (hlink : ∀ target, node ≠ .link target)
      (h : Leads tree links (place ++ [name]) rest r) :
      Leads tree links place (.down name :: rest) r
  | link {links : Nat} {place r : Place} {rest : List Step} {name : Octets} {target : String}
      (hdir : tree.isDirectory place = true) (hname : name.size ≤ maxName)
      (hnode : tree.node? (place ++ [name]) = some (.link target))
      (h : Leads tree links (origin target.toList place) (stepsOf target.toList ++ rest) r) :
      Leads tree (links + 1) place (.down name :: rest) r

variable {tree : FileTree} {links : Nat} {place r : Place} {steps a b : List Step}

/-- A step that the walk takes is one that the rules allow. -/
theorem leads_of_walk_ok (h : tree.walk true links place steps = .ok r) :
    tree.Leads links place steps r := by
  fun_induction tree.walk true links place steps with
  | case1 links place =>
    cases h
    exact .done links _
  | case3 links place rest hdir ih => exact .here (by simpa using hdir) (ih h)
  | case4 links place rest hdir ih => exact .up (by simpa using hdir) (ih h)
  | case9 place rest hdir name hname target hnode hlast links start ih =>
    exact .link (by simpa using hdir) (Nat.le_of_not_lt hname) hnode (ih h)
  | case10 links place rest hdir name hname node hlink hnode ih =>
    exact .down (by simpa using hdir) (Nat.le_of_not_lt hname) hnode
      (fun target heq => hlink target heq) (ih h)
  | case7 => simp_all
  -- The walk stops with a failure in all other cases.
  | _ => cases h

/-- What the rules allow is what the walk does. -/
theorem Leads.walk_ok (h : tree.Leads links place steps r) :
    tree.walk true links place steps = .ok r := by
  induction h with
  | done => rw [walk]
  | here hdir h ih => rw [walk, hdir]; exact ih
  | up hdir h ih => rw [walk, hdir]; exact ih
  | @down _ _ _ _ _ node hdir hname hnode hlink h ih =>
    rw [walk, hdir]
    simp only [Nat.not_lt.2 hname, hnode]
    cases node with
    | link target => exact absurd rfl (hlink target)
    | directory => exact ih
    | file content executable => exact ih
  | link hdir hname hnode h ih =>
    rw [walk, hdir]
    simp only [Nat.not_lt.2 hname, hnode]
    simpa [origin] using ih

/-- **The walk follows the rules.** -/
theorem walk_ok_iff_leads :
    tree.walk true links place steps = .ok r ↔ tree.Leads links place steps r :=
  ⟨leads_of_walk_ok, Leads.walk_ok⟩

/-- A larger supply of links does not change where steps lead. -/
theorem Leads.mono (h : tree.Leads links place steps r) {more : Nat} (hmore : links ≤ more) :
    tree.Leads more place steps r := by
  induction h generalizing more with
  | done => exact .done more _
  | here hdir h ih => exact .here hdir (ih hmore)
  | up hdir h ih => exact .up hdir (ih hmore)
  | down hdir hname hnode hlink h ih => exact .down hdir hname hnode hlink (ih hmore)
  | link hdir hname hnode h ih =>
    obtain ⟨more, rfl⟩ : ∃ fewer, more = fewer + 1 := ⟨more - 1, by omega⟩
    exact .link hdir hname hnode (ih (by omega))

/-- **Steps lead to one place at most,** whatever the supply of links. -/
theorem Leads.unique {other : Nat} {q : Place} (h : tree.Leads links place steps r)
    (h' : tree.Leads other place steps q) : r = q := by
  -- With the larger supply, both are the end of one walk.
  have hr := (h.mono (Nat.le_max_left links other)).walk_ok
  have hq := (h'.mono (Nat.le_max_right links other)).walk_ok
  exact Except.ok.inj (hr.symm.trans hq)

/-- **Steps lead through the end of each of their first parts.** -/
theorem Leads.split (h : tree.Leads links place (a ++ b) r) :
    ∃ q, tree.Leads links place a q ∧ tree.Leads links q b r := by
  generalize hsteps : a ++ b = steps at h
  induction h generalizing a with
  | done links place =>
    obtain ⟨rfl, rfl⟩ := List.append_eq_nil_iff.1 hsteps
    exact ⟨place, .done links place, .done links place⟩
  | here hdir h ih =>
    obtain ⟨rfl, rfl⟩ | ⟨a, rfl, rfl⟩ := List.append_eq_cons_iff.1 hsteps
    · exact ⟨_, .done _ _, .here hdir h⟩
    · obtain ⟨q, ha, hb⟩ := ih rfl
      exact ⟨q, .here hdir ha, hb⟩
  | up hdir h ih =>
    obtain ⟨rfl, rfl⟩ | ⟨a, rfl, rfl⟩ := List.append_eq_cons_iff.1 hsteps
    · exact ⟨_, .done _ _, .up hdir h⟩
    · obtain ⟨q, ha, hb⟩ := ih rfl
      exact ⟨q, .up hdir ha, hb⟩
  | down hdir hname hnode hlink h ih =>
    obtain ⟨rfl, rfl⟩ | ⟨a, rfl, rfl⟩ := List.append_eq_cons_iff.1 hsteps
    · exact ⟨_, .done _ _, .down hdir hname hnode hlink h⟩
    · obtain ⟨q, ha, hb⟩ := ih rfl
      exact ⟨q, .down hdir hname hnode hlink ha, hb⟩
  | @link links _ _ _ _ target hdir hname hnode h ih =>
    obtain ⟨rfl, rfl⟩ | ⟨a, rfl, rfl⟩ := List.append_eq_cons_iff.1 hsteps
    · exact ⟨_, .done _ _, .link hdir hname hnode h⟩
    · -- The steps of the target belong to the first part, and use up a link of its supply.
      obtain ⟨q, ha, hb⟩ := ih (a := stepsOf target.toList ++ a) (List.append_assoc ..)
      exact ⟨q, .link hdir hname hnode ha, hb.mono (Nat.le_succ links)⟩

/-- Standing still leads nowhere else, and needs a directory. -/
theorem leads_here_iff :
    tree.Leads links place [.here] r ↔ r = place ∧ tree.isDirectory place = true := by
  constructor
  · intro h
    cases h with
    | here hdir h =>
      cases h
      exact ⟨rfl, hdir⟩
  · rintro ⟨rfl, hdir⟩
    exact .here hdir (.done links r)

end RuntimeLauncher.FileTree
