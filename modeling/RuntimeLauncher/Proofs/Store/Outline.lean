import RuntimeLauncher.Proofs.Store.Sheet
import RuntimeLauncher.Proofs.Yaml.Reading

/-!
# Store files as outlines

A document has the shape of a store file if it maps the names of hives to mappings of key paths, and
these to mappings of value names. Its outline keeps the nodes that stand in the places of values as
they are. A file is loaded by reading each of these nodes for itself, so an outline is enough to say
which files load and what is in them.

## Main Definitions

* `Value.ofNode?` — a node as a stored value
* `Outline`, `Outline.Describes` — what stands in the places of values in a store file
* `Outline.node?` — the node for a name below a key path

## Main Statements

* `Sheet.reads_fields` — the sections of a store file are read one after another
* `GoesThrough.textMap` — reading a mapping goes through reading its parts
* `Outline.exists_decode_iff` — a file loads if all its nodes can be read
* `Outline.node?_rel` — a sheet has the values of the nodes in the places where these stand

## Design Notes

An outline keeps what is written twice. `Outline.node?` looks for the last one, as loading does.
-/

namespace RuntimeLauncher

theorem Hive.name_injective {a b : Hive} (h : a.name = b.name) : a = b := by
  cases a <;> cases b <;> simp_all [Hive.name]

namespace Store

open Yaml Yaml.Decode

variable {document : Document}

/-! ### Reading a sheet -/

/-- A node as a stored value. -/
def Value.ofNode? (document : Document) (node : Node) : Option Value :=
  (document.value? Sheet.valueDepth node).bind Value.ofYaml?

theorem Value.reads_decode (path : Yaml.Path) (node : Node) :
    Reads document.aliasLimit (Value.decode document Sheet.valueDepth path node)
      (Value.ofNode? document node) (document.valueAliases Sheet.valueDepth node) := by
  rw [Value.decode, Value.ofNode?, ← Nat.add_zero (document.valueAliases _ _)]
  refine (Document.reads_value _ path node).bind fun found _ => ?_
  cases Value.ofYaml? found with
  | none => exact reads_refuse _
  | some value => exact reads_pure value

namespace Sheet

/-- The key paths of a hive in a node. -/
def keys? (document : Document) : Node → Option (List (String × Names)) :=
  document.textMap? (document.textMap? (Value.ofNode? document))

/-- How many aliases are followed for the key paths of a hive. -/
def keysAliases (document : Document) : Node → Nat :=
  document.textMapAliases (document.textMapAliases (document.valueAliases valueDepth))

theorem reads_textMap {α : Type} {value : Yaml.Path → Node → Decode α}
    {value? : Node → Option α} {cost : Node → Nat}
    (h : ∀ path node, Reads document.aliasLimit (value path node) (value? node) (cost node))
    (path : Yaml.Path) (node : Node) :
    Reads document.aliasLimit (textMap document value path node) (document.textMap? value? node)
      (document.textMapAliases cost node) :=
  Document.reads_textMap "a map" "a string" (fun step => h (step :: path)) path node

theorem reads_keys (path : Yaml.Path) (node : Node) :
    Reads document.aliasLimit (keys document path node) (keys? document node)
      (keysAliases document node) :=
  reads_textMap (reads_textMap Value.reads_decode) path node

/-- The sheet with another section for a hive. -/
def put (sheet : Sheet) (keys : List (String × Names)) : Hive → Sheet
  | .localMachine => { sheet with localMachine := keys }
  | .currentUser => { sheet with currentUser := keys }

/-- The sheet with other sections where there are some. -/
def withSections (sheet : Sheet) (sections : List (String × List (String × Names))) : Sheet where
  localMachine := (sections.lookup Hive.localMachine.name).getD sheet.localMachine
  currentUser := (sections.lookup Hive.currentUser.name).getD sheet.currentUser

theorem put_withSections {sheet : Sheet} {hive : Hive} {keys : List (String × Names)}
    {sections : List (String × List (String × Names))}
    (h : hive.name ∉ sections.map Prod.fst) :
    (sheet.put keys hive).withSections sections =
      sheet.withSections ((hive.name, keys) :: sections) := by
  have hnone : sections.lookup hive.name = none := by
    refine List.lookup_eq_none_iff.2 fun entry hentry => ?_
    exact bne_iff_ne.2 fun heq => h (heq ▸ List.mem_map_of_mem hentry)
  cases hive with
  | localMachine | currentUser =>
    simp only [Hive.name] at hnone
    simp [withSections, put, hnone, Sorted.lookup_cons_eq_if, Hive.name]

/-- The field of a store file for a hive. -/
def field (document : Document) (hive : Hive) : RecordField Sheet :=
  ⟨hive.name, fun path node sheet => do pure (sheet.put (← keys document path node) hive)⟩

theorem find?_fields (document : Document) (hive : Hive) :
    (fields document).find? (fun field => field.name == hive.name) =
      some (field document hive) := by
  cases hive <;> rfl

theorem keys_of_mapM {nodes : List (Node × Node)} {names : List String}
    {sections : List (String × List (String × Names))}
    (hnames : nodes.Forall₂ (fun entry name => document.text? entry.1 = some name) names)
    (h : nodes.mapM (pair? document.text? (keys? document)) = some sections) :
    sections.map Prod.fst = names := by
  rw [mapM_eq_some_iff] at h
  induction hnames generalizing sections with
  | nil =>
    cases h
    rfl
  | cons hname _ ih =>
    obtain ⟨found, others, hentry, hrest, rfl⟩ := List.forall₂_cons_left_iff.1 h
    rw [List.map_cons, ih hrest]
    rw [(pair?_eq_some_iff.1 hentry).1] at hname
    rw [Option.some.inj hname]

/-- **The fields of a sheet are read one after another,** if each of them stands for another
hive. -/
theorem reads_fields {nodes : List (Node × Node)} {names : List String} {seen : List String}
    (hnames : nodes.Forall₂ (fun entry name => document.text? entry.1 = some name) names)
    (hhives : ∀ name ∈ names, ∃ hive : Hive, name = hive.name) (hdistinct : names.Nodup)
    (hseen : ∀ name ∈ names, name ∉ seen) (path : Yaml.Path) (sheet : Sheet) :
    Reads document.aliasLimit
      (document.fieldsFrom path (fields document) seen nodes sheet)
      ((nodes.mapM (pair? document.text? (keys? document))).map sheet.withSections)
      (nodes.map fun entry => entry.1.aliases + keysAliases document entry.2).sum := by
  induction hnames generalizing seen sheet with
  | nil => exact reads_pure sheet
  | @cons entry name nodes names hname hrest ih =>
    obtain ⟨⟨hive, rfl⟩, hothers⟩ := List.forall_mem_cons.1 hhives
    obtain ⟨hnew, hdistinct⟩ := List.nodup_cons.1 hdistinct
    obtain ⟨hfresh, hseen⟩ := List.forall_mem_cons.1 hseen
    have hseen' : ∀ name ∈ names, name ∉ hive.name :: seen := fun name hmem =>
      fun h => (List.mem_cons.1 h).elim (fun heq => hnew (heq ▸ hmem)) (hseen name hmem)
    have hresult : ((entry :: nodes).mapM (pair? document.text? (keys? document))).map
        sheet.withSections =
          (document.text? entry.1).bind fun _ => (keys? document entry.2).bind fun keys =>
            (nodes.mapM (pair? document.text? (keys? document))).map
              (sheet.put keys hive).withSections := by
      rw [mapM_cons_eq_bind, pair?, hname]
      simp only [Option.bind_eq_bind, Option.bind_some, Option.pure_def, Option.bind_assoc,
        Option.map_bind, Function.comp_def, Option.map_map]
      refine Option.bind_congr fun keys _ => Option.map_congr fun sections hsections => ?_
      refine (put_withSections ?_).symm
      rwa [keys_of_mapM hrest hsections]
    rw [hresult, Document.fieldsFrom, List.map_cons, List.sum_cons, Nat.add_assoc]
    refine (Document.reads_text "field identifier" path entry.1).bind fun name hname' => ?_
    obtain rfl : hive.name = name := Option.some.inj (hname.symm.trans hname')
    simp only [find?_fields, List.contains_eq_mem, hfresh, decide_false, Bool.false_eq_true,
      if_false]
    have hfield : Reads document.aliasLimit
        ((field document hive).read (.ofKey entry.1 :: path) entry.2 sheet)
        ((keys? document entry.2).map (sheet.put · hive)) (keysAliases document entry.2) :=
      (reads_keys _ entry.2).map (sheet.put · hive)
    have hread := hfield.bind fun after _ => ih hothers hdistinct hseen' after
    rwa [Option.bind_map] at hread

/-- How many aliases are followed in a store file. -/
def aliases (document : Document) : Nat :=
  document.textMapAliases (keysAliases document) document.root

end Sheet

/-! ### Reading by parts -/

/-- Reading a value is reading a part first, and then going on to a value that is related to it. -/
def GoesThrough {α β : Type} (part? : Node → Option α) (R : α → β → Prop)
    (value? : Node → Option β) : Prop :=
  ∀ node value, value? node = some value ↔ ∃ part, part? node = some part ∧ R part value

/-- Mappings are read through mappings if their values are read through parts. -/
theorem GoesThrough.textMap {α β : Type} {part? : Node → Option α} {R : α → β → Prop}
    {value? : Node → Option β} (h : GoesThrough part? R value?) (document : Document) :
    GoesThrough (document.textMap? part?) (Sorted.Matched R) (document.textMap? value?) := by
  have hentries (entries : List (Node × Node)) (found : List (String × β)) :
      entries.mapM (pair? document.text? value?) = some found ↔
        ∃ parts, entries.mapM (pair? document.text? part?) = some parts ∧
          Sorted.Matched R parts found := by
    simp only [mapM_eq_some_iff, pair?_eq_some_iff]
    induction entries generalizing found with
    | nil => simp
    | cons entry rest ih =>
      simp only [List.forall₂_cons_left_iff, ih]
      constructor
      · rintro ⟨first, others, ⟨htext, hvalue⟩, ⟨parts, hparts, hmatched⟩, rfl⟩
        obtain ⟨part, hpart, hR⟩ := (h _ _).1 hvalue
        exact ⟨_, ⟨(first.1, part), parts, ⟨htext, hpart⟩, hparts, rfl⟩,
          .cons ⟨rfl, hR⟩ hmatched⟩
      · rintro ⟨_, ⟨part, parts, ⟨htext, hpart⟩, hparts, rfl⟩, hmatched⟩
        obtain ⟨first, others, ⟨hname, hR⟩, hrest, rfl⟩ := List.forall₂_cons_left_iff.1 hmatched
        exact ⟨first, others, ⟨hname ▸ htext, (h _ _).2 ⟨_, hpart, hR⟩⟩, ⟨parts, hparts, hrest⟩,
          rfl⟩
  intro node found
  simp only [Document.textMap?, Option.bind_eq_some_iff, hentries]
  constructor
  · rintro ⟨entries, hnode, parts, hparts, hmatched⟩
    exact ⟨parts, ⟨entries, hnode, hparts⟩, hmatched⟩
  · rintro ⟨parts, ⟨entries, hnode, hparts⟩, hmatched⟩
    exact ⟨entries, hnode, parts, hparts, hmatched⟩

/-! ### The shape of a store file -/

/-- What stands in the places of values, below value names, key paths and the names of hives. -/
abbrev Outline := List (String × List (String × List (String × Node)))

namespace Outline

/-- The document has the shape of a store file: sections for the hives, each at most once, with key
paths and value names below them. In the place of a value there can be any node. -/
structure IsOf (outline : Outline) (document : Document) : Prop where
  shape : document.textMap? (document.textMap? (document.textMap? some)) document.root =
    some outline
  hives : ∀ name ∈ outline.map Prod.fst, ∃ hive : Hive, name = hive.name
  distinct : (outline.map Prod.fst).Nodup

/-- The text holds one document and nothing else, and this has the shape of a store file. -/
structure Describes (outline : Outline) (text : String) : Prop
    extends outline.IsOf (Document.ofText text) where
  wellFormed : (Document.ofText text).isWellFormed = true

/-- All nodes in the places of values. -/
def nodes (outline : Outline) : List Node :=
  outline.flatMap fun part => part.2.flatMap fun key => key.2.map Prod.snd

/-- The section of a hive. -/
def under (outline : Outline) (hive : Hive) : List (String × List (String × Node)) :=
  (outline.lookup hive.name).getD []

/-- The node of a value. A path that is written twice in the same way counts with its last content,
and so does a name. -/
def node? (outline : Outline) (hive : Hive) (path name : String) : Option Node :=
  (Sorted.lastValue? (outline.under hive) path).bind (Sorted.lastValue? · name)

variable {outline : Outline} {sections : List (String × List (String × Names))} {sheet : Sheet}
  {text path name : String} {hive : Hive} {value : Value}

theorem mem_nodes_iff {node : Node} :
    node ∈ outline.nodes ↔
      ∃ part ∈ outline, ∃ key ∈ part.2, ∃ entry ∈ key.2, entry.2 = node := by
  simp only [nodes, List.mem_flatMap, List.mem_map]

theorem mem_of_node? {node : Node} (h : outline.node? hive path name = some node) :
    ∃ keys names, (hive.name, keys) ∈ outline ∧ (path, names) ∈ keys ∧ (name, node) ∈ names := by
  obtain ⟨names, hnames, hnode⟩ := Option.bind_eq_some_iff.1 h
  have hpath := Sorted.mem_of_lastValue? hnames
  cases hkeys : outline.lookup hive.name with
  | none =>
    rw [under, hkeys] at hpath
    cases hpath
  | some keys =>
    rw [under, hkeys] at hpath
    exact ⟨keys, names, Sorted.mem_of_lookup hkeys, hpath, Sorted.mem_of_lastValue? hnode⟩

/-- Nodes and values correspond. -/
abbrev Stands (document : Document) (node : Node) (value : Value) : Prop :=
  Value.ofNode? document node = some value

theorem sections_eq_some_iff (h : outline.IsOf document) :
    document.textMap? (Sheet.keys? document) document.root = some sections ↔
      Sorted.Matched (Sorted.Matched (Sorted.Matched (Stands document))) outline sections := by
  have hvalues : GoesThrough some (Stands document) (Value.ofNode? document) := by
    simp [GoesThrough]
  have hsections := ((hvalues.textMap document).textMap document).textMap document
  rw [Sheet.keys?, hsections, h.shape]
  simp only [Option.some.injEq, exists_eq_left']

theorem reads_sheet (h : outline.IsOf document) :
    Reads document.aliasLimit
      (document.record "struct StoreFile" ⟨[], []⟩ (Sheet.fields document) [] document.root)
      ((document.textMap? (Sheet.keys? document) document.root).map
        (Sheet.withSections ⟨[], []⟩))
      (Sheet.aliases document) := by
  rw [Document.textMap?, Option.map_bind]
  refine Document.reads_mapping (fun entries hentries => ?_) "struct StoreFile" []
  have hshape := h.shape
  rw [Document.textMap?, hentries, Option.bind_some, mapM_eq_some_iff] at hshape
  have hnames : entries.Forall₂ (fun entry name => document.text? entry.1 = some name)
      (outline.map Prod.fst) := by
    rw [List.forall₂_map_right_iff]
    exact hshape.imp fun _ _ hentry => (pair?_eq_some_iff.1 hentry).1
  exact Sheet.reads_fields hnames h.hives h.distinct (fun _ _ => List.not_mem_nil) [] _

theorem decode_eq_ok_iff (h : outline.Describes text) :
    Sheet.decode text = .ok sheet ↔
      (∃ sections, Sorted.Matched (Sorted.Matched (Sorted.Matched
          (Stands (Document.ofText text)))) outline sections ∧
        Sheet.withSections ⟨[], []⟩ sections = sheet) ∧
      Sheet.aliases (Document.ofText text) ≤ (Document.ofText text).aliasLimit := by
  refine (Document.decode_eq_ok_iff h.wellFormed (reads_sheet h.toIsOf)).trans ?_
  simp only [Option.map_eq_some_iff, sections_eq_some_iff h.toIsOf]

/-- **A file loads as a whole** exactly if there is a value for each node. -/
theorem exists_decode_iff (h : outline.Describes text) :
    (∃ sheet, Sheet.decode text = .ok sheet) ↔
      (∀ node ∈ outline.nodes, ∃ value, Stands (Document.ofText text) node value) ∧
        Sheet.aliases (Document.ofText text) ≤ (Document.ofText text).aliasLimit := by
  have hsections : (∃ sections, Sorted.Matched (Sorted.Matched (Sorted.Matched
      (Stands (Document.ofText text)))) outline sections) ↔
        ∀ node ∈ outline.nodes, ∃ value, Stands (Document.ofText text) node value := by
    simp only [Sorted.exists_matched_iff, mem_nodes_iff]
    constructor
    · rintro hall _ ⟨part, hpart, key, hkey, entry, hentry, rfl⟩
      exact hall part hpart key hkey entry hentry
    · intro hall part hpart key hkey entry hentry
      exact hall _ ⟨part, hpart, key, hkey, entry, hentry, rfl⟩
  simp only [decode_eq_ok_iff h, ← hsections]
  constructor
  · rintro ⟨_, ⟨sections, hmatched, -⟩, haliases⟩
    exact ⟨⟨sections, hmatched⟩, haliases⟩
  · rintro ⟨⟨sections, hmatched⟩, haliases⟩
    exact ⟨_, ⟨sections, hmatched, rfl⟩, haliases⟩

theorem matched_under (h : outline.Describes text) (hsheet : Sheet.decode text = .ok sheet)
    (hive : Hive) :
    Sorted.Matched (Sorted.Matched (Stands (Document.ofText text))) (outline.under hive)
      (sheet.under hive) := by
  obtain ⟨⟨sections, hmatched, rfl⟩, -⟩ := (decode_eq_ok_iff h).1 hsheet
  have hunder : (Sheet.withSections ⟨[], []⟩ sections).under hive =
      (sections.lookup hive.name).getD [] := by
    cases hive <;> rfl
  rw [hunder, under]
  have hlookup := Sorted.Matched.lookup_rel hmatched hive.name
  generalize outline.lookup hive.name = part at hlookup
  generalize sections.lookup hive.name = found at hlookup
  cases hlookup with
  | none => exact .nil
  | some hpart => exact hpart

/-- **A sheet has the values of the nodes** in the places where these stand. -/
theorem node?_rel (h : outline.Describes text) (hsheet : Sheet.decode text = .ok sheet)
    (hive : Hive) (path name : String) :
    Option.Rel (Stands (Document.ofText text)) (outline.node? hive path name)
      ((Sorted.lastValue? (sheet.under hive) path).bind (Sorted.lastValue? · name)) := by
  rw [node?]
  have hnames := Sorted.Matched.lastValue?_rel (matched_under h hsheet hive) path
  generalize Sorted.lastValue? (outline.under hive) path = parts at hnames
  generalize Sorted.lastValue? (sheet.under hive) path = names at hnames
  cases hnames with
  | none => exact .none
  | some hmatched => exact Sorted.Matched.lastValue?_rel hmatched name

theorem exists_node?_of_lists (h : outline.Describes text)
    (hsheet : Sheet.decode text = .ok sheet) (hlists : sheet.Lists hive path name value) :
    ∃ node, outline.node? hive path name = some node := by
  have hrel := node?_rel h hsheet hive path name
  rw [Option.bind_eq_some_iff.2 hlists] at hrel
  generalize outline.node? hive path name = node at hrel
  cases hrel
  exact ⟨_, rfl⟩

theorem exists_lists_of_node? {node : Node} (h : outline.Describes text)
    (hsheet : Sheet.decode text = .ok sheet) (hnode : outline.node? hive path name = some node) :
    ∃ value, Stands (Document.ofText text) node value ∧ sheet.Lists hive path name value := by
  have hrel := node?_rel h hsheet hive path name
  rw [hnode] at hrel
  generalize hvalue : (Sorted.lastValue? (sheet.under hive) path).bind _ = found at hrel
  cases hrel with
  | some hstands => exact ⟨_, hstands, Option.bind_eq_some_iff.1 hvalue⟩

end Outline

end Store

end RuntimeLauncher
