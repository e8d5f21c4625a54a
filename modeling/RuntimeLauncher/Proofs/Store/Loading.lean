import RuntimeLauncher.Proofs.Store.Outline
import RuntimeLauncher.Proofs.Yaml.Spoiled

/-!
# Odd entries of a store file

An entry of a store file can hold anything that is a value, and none of it matters to the other
entries. Still there are nodes that are no value, as those with a local tag. A single one of them
keeps the whole file from loading.

## Main Definitions

* `Outline.SpoilsFile` — the node keeps a file from loading
* `Outline.Alone` — no other entry denotes the cell
* `Outline.IsRestOf` — a file has some of the entries of another one

## Main Statements

* `exists_ofText_iff` — which files load
* `get?_of_alone` — an entry fills its cell if no other entry denotes it
* `loads_unless_spoiled` — an odd entry spoils its file or spares the others
* `taggedFile_does_not_load` — a file that an entry spoils

## Design Notes

The rest of a file is compared by the values of its nodes. The nodes themselves move up in the text
when others are taken out before them.
-/

namespace RuntimeLauncher.Store

open Yaml

variable {document : Document}

namespace Outline

/-- The node keeps a file from loading: no value can be read from it, or the value has a mapping
that names one key twice. -/
def SpoilsFile (document : Document) (node : Node) : Prop :=
  document.Spoils Sheet.valueDepth node ∨
    ∃ value, document.value? Sheet.valueDepth node = some value ∧ value.distinctKeys = false

/-- No entry under another spelling denotes the cell. -/
def Alone (outline : Outline) (hive : Hive) (path name : String) : Prop :=
  ∀ p n node, outline.node? hive p n = some node → KeyPath.normal p = KeyPath.normal path →
    Text.sameUpToCase n.toList name.toList = true → (p, n) = (path, name)

/-- The rest of a file has no entry but those of the file, with the same values. -/
def IsRestOf (rest : Outline) (restText : String) (outline : Outline) (text : String) : Prop :=
  ∀ hive path name node, rest.node? hive path name = some node →
    ∃ original, outline.node? hive path name = some original ∧
      Value.ofNode? (Document.ofText restText) node = Value.ofNode? (Document.ofText text) original

end Outline

theorem Value.ofYaml?_eq_none_iff {yaml : Yaml.Value} :
    Value.ofYaml? yaml = none ↔ yaml.distinctKeys = false := by
  cases yaml with
  | string => simp [ofYaml?, Yaml.Value.distinctKeys]
  | int n =>
    simp only [ofYaml?, Yaml.Value.distinctKeys]
    split <;> simp
  | null | bool | float | seq | map =>
    simp only [ofYaml?]
    split <;> simp_all

/-- A node has a value unless it spoils the file. -/
theorem Value.exists_ofNode?_iff {node : Node} :
    (∃ value, Value.ofNode? document node = some value) ↔
      ¬ Outline.SpoilsFile document node := by
  rw [← Option.isSome_iff_exists, ← not_iff_not, not_not, Option.not_isSome_iff_eq_none,
    Value.ofNode?, Outline.SpoilsFile, ← Document.value?_eq_none_iff_spoils]
  cases document.value? Sheet.valueDepth node with
  | none => simp
  | some value => simp [Value.ofYaml?_eq_none_iff]

/-- The value of a scalar does not depend on its place. -/
theorem Value.ofNode?_scalar (document : Document) (mark : Mark) (tag : Option Tag)
    (text : String) (style : ScalarStyle) :
    Value.ofNode? document (.scalar mark tag text style) =
      (scalarValue? tag text style).bind Value.ofYaml? := by
  rw [Value.ofNode?, Document.value?_of_aliases rfl]
  rfl

theorem Value.ofNode?_eq_string_iff {node : Node} {found : String} :
    Value.ofNode? document node = some (.string found) ↔
      document.value? Sheet.valueDepth node = some (.string found) := by
  simp only [Value.ofNode?, Option.bind_eq_some_iff, Value.ofYaml?_eq_string_iff,
    exists_eq_right]

variable {text path name : String} {outline : Outline} {store : Store} {hive : Hive} {node : Node}

theorem exists_ofText_iff (h : outline.Describes text) :
    (∃ store, ofText text = .ok store) ↔
      (∀ node ∈ outline.nodes, ¬ Outline.SpoilsFile (Document.ofText text) node) ∧
        Sheet.aliases (Document.ofText text) ≤ (Document.ofText text).aliasLimit := by
  simp only [← Value.exists_ofNode?_iff, ← Outline.exists_decode_iff h, ofText_eq_ok_iff]
  constructor
  · rintro ⟨_, sheet, hsheet, -⟩
    exact ⟨sheet, hsheet⟩
  · rintro ⟨sheet, hsheet⟩
    exact ⟨_, sheet, hsheet, rfl⟩

/-- **An entry that no other entry touches fills its cell** with its own value. -/
theorem get?_of_alone (h : outline.Describes text) (hstore : ofText text = .ok store)
    (hnode : outline.node? hive path name = some node) (halone : outline.Alone hive path name) :
    ∃ value, Value.ofNode? (Document.ofText text) node = some value ∧
      store.cells.get? (.of hive path name) = some value ∧
      store.cells.hasKey hive (KeyPath.normal path) = true := by
  obtain ⟨sheet, hsheet, rfl⟩ := ofText_eq_ok_iff.1 hstore
  obtain ⟨value, hstands, hlists⟩ := Outline.exists_lists_of_node? h hsheet hnode
  have hprevails : sheet.Prevails hive path name path name value := by
    refine ⟨⟨hlists, rfl, by simp [Text.sameUpToCase]⟩, fun p n other hcontends => .inl ?_⟩
    obtain ⟨_, hother⟩ := Outline.exists_node?_of_lists h hsheet hcontends.lists
    exact halone p n _ hother hcontends.path_eq hcontends.name_eq
  refine ⟨value, hstands, ?_, ?_⟩
  · rw [← Sheet.toStore_history, History.get?_toStore]
    exact Sheet.value?_history_iff.2 ⟨path, name, hprevails⟩
  · rw [← Sheet.toStore_history, History.hasKey_toStore_iff, Sheet.hasKey_history_iff]
    exact ⟨path, name, value, hlists, List.prefix_rfl⟩

/-- **An odd entry spoils its file or spares the others.**  A file of the right shape loads exactly
if no node in the place of a value spoils it and it does not follow too many aliases. Then every
entry that no other entry touches reads as its own text, or is no text. So it reads the same as in
any rest of the file. -/
theorem loads_unless_spoiled (h : outline.Describes text) :
    ((∃ store, ofText text = .ok store) ↔
        (∀ node ∈ outline.nodes, ¬ Outline.SpoilsFile (Document.ofText text) node) ∧
          Sheet.aliases (Document.ofText text) ≤ (Document.ofText text).aliasLimit) ∧
      ∀ store, ofText text = .ok store → ∀ hive path name node,
        outline.node? hive path name = some node → outline.Alone hive path name →
          (∃ key after, store.open hive path = .ok (key, after) ∧
            ∀ found, key.getString name = .ok found ↔
              (Document.ofText text).value? Sheet.valueDepth node = some (.string found)) ∧
          ∀ (rest : Outline) restText restStore restNode, rest.Describes restText →
            rest.IsRestOf restText outline text → ofText restText = .ok restStore →
              rest.node? hive path name = some restNode →
                ∃ key after restKey restAfter, store.open hive path = .ok (key, after) ∧
                  restStore.open hive path = .ok (restKey, restAfter) ∧
                  key.getString name = restKey.getString name := by
  refine ⟨exists_ofText_iff h, fun store hstore hive path name node hnode halone => ?_⟩
  obtain ⟨value, hvalue, hget, hkey⟩ := get?_of_alone h hstore hnode halone
  have hopen {store : Store} (hkey : store.cells.hasKey hive (KeyPath.normal path) = true) :
      store.open hive path = .ok (⟨store.cells, hive, KeyPath.normal path⟩,
        { store with openHandles := store.openHandles + 1 }) :=
    grant_eq_ok_iff.2 ⟨hkey, rfl, rfl⟩
  refine ⟨⟨_, _, hopen hkey, fun found => ?_⟩, ?_⟩
  · rw [Handle.getString_eq_ok_iff, ← Value.ofNode?_eq_string_iff, hvalue]
    exact hget ▸ Iff.rfl
  · intro rest restText restStore restNode hdescribes hrest hrestStore hrestNode
    have hrestAlone : rest.Alone hive path name := fun p n other hother => by
      obtain ⟨original, horiginal, -⟩ := hrest hive p n other hother
      exact halone p n original horiginal
    obtain ⟨restValue, hrestValue, hrestGet, hrestKey⟩ :=
      get?_of_alone hdescribes hrestStore hrestNode hrestAlone
    refine ⟨_, _, _, _, hopen hkey, hopen hrestKey, ?_⟩
    have hsame : restValue = value := by
      obtain ⟨original, horiginal, hsame⟩ := hrest hive path name restNode hrestNode
      obtain rfl : node = original := Option.some.inj (hnode.symm.trans horiginal)
      exact Option.some.inj (hrestValue.symm.trans (hsame.trans hvalue))
    refine Handle.getString_eq_of_rel ?_
    change Option.Rel Value.Alike (store.cells.get? (.of hive path name))
      (restStore.cells.get? (.of hive path name))
    rw [hget, hrestGet, hsame]
    exact .some (.refl _)

/-- A file with nothing odd in it. -/
def plainFile : String := "local_machine:\n  A:\n    m: 'ok'\n"

/-- What stands in `plainFile`. -/
def plainOutline : Outline :=
  [("local_machine", [("A", [("m", .scalar ⟨27, 2, 7⟩ none "ok" .singleQuoted)])])]

/-- What stands in `plainFile` if another entry comes first. -/
def outlineAfter (odd : Node) (mark : Mark) : Outline :=
  [("local_machine", [("A", [("n", odd), ("m", .scalar mark none "ok" .singleQuoted)])])]

/-- The file with a sequence in the place of another value. -/
def sequenceFile : String := "local_machine:\n  A:\n    n: []\n    m: 'ok'\n"

/-- The file with a local tag on another value. -/
def taggedFile : String := "local_machine:\n  A:\n    n: !x 1\n    m: 'ok'\n"

/-- What stands in `sequenceFile`. -/
def sequenceOutline : Outline := outlineAfter (.seq ⟨27, 2, 7⟩ none [] none) ⟨37, 3, 7⟩

/-- What stands in `taggedFile`. -/
def taggedOutline : Outline :=
  outlineAfter (.scalar ⟨27, 2, 7⟩ (some (.text "!x")) "1" .plain) ⟨39, 3, 7⟩

theorem plainOutline_describes : plainOutline.Describes plainFile where
  shape := rfl
  hives := by simpa [plainOutline] using ⟨.localMachine, rfl⟩
  distinct := by simp [plainOutline]
  wellFormed := rfl

theorem sequenceOutline_describes : sequenceOutline.Describes sequenceFile where
  shape := rfl
  hives := by simpa [sequenceOutline, outlineAfter] using ⟨.localMachine, rfl⟩
  distinct := by simp [sequenceOutline, outlineAfter]
  wellFormed := rfl

theorem taggedOutline_describes : taggedOutline.Describes taggedFile where
  shape := rfl
  hives := by simpa [taggedOutline, outlineAfter] using ⟨.localMachine, rfl⟩
  distinct := by simp [taggedOutline, outlineAfter]
  wellFormed := rfl

theorem node?_outlineAfter {odd : Node} {mark : Mark}
    (h : (outlineAfter odd mark).node? hive path name = some node) :
    hive = .localMachine ∧ path = "A" ∧ (name = "n" ∨ name = "m") := by
  obtain ⟨keys, names, hkeys, hpath, hname⟩ := Outline.mem_of_node? h
  obtain ⟨hhive, rfl⟩ := Prod.mk.inj (List.mem_singleton.1 hkeys)
  obtain ⟨rfl, rfl⟩ := Prod.mk.inj (List.mem_singleton.1 hpath)
  refine ⟨Hive.name_injective hhive, rfl, ?_⟩
  rcases List.mem_cons.1 hname with heq | hmem
  · exact .inl (Prod.mk.inj heq).1
  · exact .inr (Prod.mk.inj (List.mem_singleton.1 hmem)).1

/-- The two entries stand in different cells. -/
theorem alone_outlineAfter {odd : Node} {mark : Mark}
    (h : (outlineAfter odd mark).node? hive path name = some node) :
    (outlineAfter odd mark).Alone hive path name := by
  obtain ⟨-, rfl, hname⟩ := node?_outlineAfter h
  intro p n other hother _ hsame
  obtain ⟨-, rfl, hn⟩ := node?_outlineAfter hother
  rcases hname with rfl | rfl <;> rcases hn with rfl | rfl
  · rfl
  · exact absurd hsame (by decide)
  · exact absurd hsame (by decide)
  · rfl

theorem plainOutline_isRestOf (odd : Node) (mark : Mark) (text : String) :
    plainOutline.IsRestOf plainFile (outlineAfter odd mark) text := by
  intro hive path name node h
  obtain ⟨keys, names, hkeys, hpath, hname⟩ := Outline.mem_of_node? h
  obtain ⟨hhive, rfl⟩ := Prod.mk.inj (List.mem_singleton.1 hkeys)
  obtain rfl : hive = .localMachine := Hive.name_injective hhive
  obtain ⟨rfl, rfl⟩ := Prod.mk.inj (List.mem_singleton.1 hpath)
  cases List.mem_singleton.1 hname
  refine ⟨.scalar mark none "ok" .singleQuoted, rfl, ?_⟩
  rw [Value.ofNode?_scalar, Value.ofNode?_scalar]

theorem ofText_plainFile :
    ofText plainFile = .ok (ofSheet ⟨[("A", [("m", .string "ok")])], []⟩) :=
  ofText_eq_ok_iff.2 ⟨_, rfl, rfl⟩

theorem ofText_sequenceFile :
    ofText sequenceFile =
      .ok (ofSheet ⟨[("A", [("n", .other (.seq [])), ("m", .string "ok")])], []⟩) :=
  ofText_eq_ok_iff.2 ⟨_, rfl, rfl⟩

/-- A sequence in the place of a value leaves the other entry as it is. -/
theorem sequenceFile_loads :
    ∃ store restStore, ofText sequenceFile = .ok store ∧ ofText plainFile = .ok restStore ∧
      ∃ key after restKey restAfter, store.open .localMachine "A" = .ok (key, after) ∧
        restStore.open .localMachine "A" = .ok (restKey, restAfter) ∧
        key.getString "m" = restKey.getString "m" := by
  obtain ⟨-, hreads⟩ := loads_unless_spoiled sequenceOutline_describes
  obtain ⟨-, hsame⟩ := hreads _ ofText_sequenceFile .localMachine "A" "m" _ rfl
    (alone_outlineAfter rfl)
  exact ⟨_, _, ofText_sequenceFile, ofText_plainFile, hsame _ _ _ _ plainOutline_describes
    (plainOutline_isRestOf _ _ _) ofText_plainFile rfl⟩

/-- **A local tag spoils its file.**  The file holds together, and its two entries stand in
different cells. It does not load, though the rest of it does. -/
theorem taggedFile_does_not_load :
    taggedOutline.Describes taggedFile ∧
      (∀ hive path name node, taggedOutline.node? hive path name = some node →
        taggedOutline.Alone hive path name) ∧
      (¬ ∃ store, ofText taggedFile = .ok store) ∧
      plainOutline.IsRestOf plainFile taggedOutline taggedFile ∧
      ∃ store key after, ofText plainFile = .ok store ∧
        store.open .localMachine "A" = .ok (key, after) ∧ key.getString "m" = .ok "ok" := by
  refine ⟨taggedOutline_describes, fun _ _ _ _ h => alone_outlineAfter h, fun hstore => ?_,
    plainOutline_isRestOf _ _ _, _, _, _, ofText_plainFile, rfl, rfl⟩
  obtain ⟨hsound, -⟩ := (exists_ofText_iff taggedOutline_describes).1 hstore
  refine hsound (.scalar ⟨27, 2, 7⟩ (some (.text "!x")) "1" .plain) ?_ (.inl (.localTag rfl))
  simp [taggedOutline, outlineAfter, Outline.nodes]

end RuntimeLauncher.Store
