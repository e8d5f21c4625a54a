import Mathlib.Data.List.Nodup
import Mathlib.Logic.Function.Basic
import RuntimeLauncher.Proofs.Store.Sorted
import RuntimeLauncher.Proofs.Yaml.Spoiled

/-!
# What a record reads

A record takes the fields of a mapping one after another, in whatever order they stand. If each
known field stands at most once, then what is read depends on what stands in the known fields, and
on nothing else. A field that holds a plain null counts as absent.

## Main Definitions

* `Node.present?` — a node, unless it is nothing
* `Node.fields?` — a mapping with scalars as keys
* `Fields.present?` — what stands in a field, unless it is nothing
* `Fields.IsTidy` — each known field stands at most once, and the others hold whole values
* `Fields.Repeats` — a known field stands there more than once
* `Decode.Understands` — a decoder follows a reading of nodes
* `RecordField.Follow` — the fields of a record follow a reading of what stands in them

## Main Statements

* `Document.reads_optional` — what an optional part reads
* `RecordField.Follow.reads_fieldsFrom` — what a record reads from its fields
* `RecordField.Follow.understands_record` — what a record reads from a mapping
* `Document.reads_record_repeated` — a record with a known field that comes again is never read

## Design Notes

All nodes here stand for themselves, so no aliases are followed. An alias in a field that is not
known does no harm, since nothing looks at it. A reading takes what stands in the fields as a
function of their names, so the order of the fields cannot matter to it.
-/

namespace RuntimeLauncher.Yaml

open Decode
open Sorted (lookup_cons_eq_if)

variable {α β : Type} {limit : Nat}

/-! ### Nodes that stand for themselves -/

namespace Node

/-- A plain scalar that stands for nothing. -/
def isNull : Node → Bool
  | .scalar _ none text .plain => text.isEmpty || Plain.isNull text
  | _ => false

/-- The node, unless it is nothing. -/
def present? (node : Node) : Option Node := if node.isNull then none else some node

/-- The node stands for itself, and no tag says what it is if it is a scalar. -/
def isBare : Node → Bool
  | .scalar _ tag _ _ => tag.isNone
  | .seq _ _ _ _ => true
  | .map _ _ _ _ => true
  | _ => false

theorem isBare_of_isNull {node : Node} (h : node.isNull = true) : node.isBare = true := by
  cases node with
  | scalar mark tag text style =>
    cases tag with
    | none => rfl
    | some tag => cases h
  | seq | map => rfl
  | «alias» | void | cut => cases h

/-- The text of a scalar without a tag. -/
def bareText? : Node → Option String
  | .scalar _ none text _ => some text
  | _ => none

/-- The texts of a sequence of scalars. -/
def texts? : Node → Option (List String)
  | .seq _ _ items none => items.mapM Node.text?
  | _ => none

end Node

/-- The fields of a mapping in their order, by name. -/
abbrev Fields := List (String × Node)

/-- The fields of a mapping with scalars as keys. -/
def Node.fields? : Node → Option Fields
  | .map _ _ entries none => entries.mapM (pair? Node.text? some)
  | _ => none

theorem Node.isBare_of_fields? {node : Node} {fields : Fields} (h : node.fields? = some fields) :
    node.isBare = true := by
  cases node with
  | map => rfl
  | scalar | seq | «alias» | void | cut => cases h

theorem Node.isNull_of_fields? {node : Node} {fields : Fields} (h : node.fields? = some fields) :
    node.isNull = false := by
  cases node with
  | map => rfl
  | scalar | seq | «alias» | void | cut => cases h

theorem Node.present?_of_fields? {node : Node} {fields : Fields}
    (h : node.fields? = some fields) : node.present? = some node := by
  rw [present?, isNull_of_fields? h, if_neg Bool.false_ne_true]

namespace Fields

variable {known : List String} {fields other : Fields} {name : String} {node : Node}

/-- The names of the fields. -/
def names (fields : Fields) : List String := fields.map Prod.fst

/-- What stands in a field, unless it is nothing. -/
def present? (fields : Fields) (name : String) : Option Node :=
  (fields.lookup name).bind Node.present?

/-- What stands in a field, or else what is given for it. -/
def presentOr (fields : Fields) (present : String → Option Node) (name : String) : Option Node :=
  (fields.lookup name).elim (present name) Node.present?

/-- Each known field stands at most once, and whatever stands in other fields is whole. -/
structure IsTidy (known : List String) (fields : Fields) : Prop where
  once : ∀ name ∈ known, fields.names.count name ≤ 1
  whole : ∀ field ∈ fields, field.1 ∉ known → field.2.isWhole = true

/-- A known field stands there more than once. -/
def Repeats (known : List String) (fields : Fields) : Prop :=
  ∃ name ∈ known, 1 < fields.names.count name

theorem lookup_eq_none (h : name ∉ fields.names) : fields.lookup name = none := by
  refine List.lookup_eq_none_iff.2 fun field hfield => bne_iff_ne.2 fun heq => h ?_
  exact heq ▸ List.mem_map_of_mem hfield

/-- A field that stands at most once is found where it stands. -/
theorem lookup_eq_some_iff (h : fields.names.count name ≤ 1) :
    fields.lookup name = some node ↔ (name, node) ∈ fields := by
  induction fields with
  | nil => simp
  | cons field rest ih =>
    obtain ⟨other, value⟩ := field
    rw [names, List.map_cons, List.count_cons] at h
    rw [lookup_cons_eq_if, List.mem_cons, Prod.mk.injEq]
    by_cases hname : name = other
    · subst hname
      have hrest : (rest.map Prod.fst).count name = 0 := by simpa using h
      have hmem : (name, node) ∉ rest := fun hmem =>
        List.count_eq_zero.1 hrest (List.mem_map_of_mem hmem)
      simp [hmem, eq_comm]
    · rw [if_neg hname, ih (Nat.le_trans (Nat.le_add_right _ _) h)]
      simp [hname]

theorem present?_cons_self : present? ((name, node) :: fields) name = node.present? := by
  rw [present?, List.lookup_cons_self, Option.bind_some]

/-- A field that holds a mapping holds something. -/
theorem present?_cons_of_fields? {inner : Fields} (h : node.fields? = some inner) :
    present? ((name, node) :: fields) name = some node := by
  rw [present?_cons_self, Node.present?_of_fields? h]

theorem present?_cons_of_ne {other : String} (h : other ≠ name) :
    present? ((name, node) :: fields) other = present? fields other := by
  rw [present?, lookup_cons_eq_if, if_neg h, present?]

theorem presentOr_none (fields : Fields) :
    fields.presentOr (fun _ => none) = fields.present? := by
  funext name
  rw [presentOr, present?]
  cases fields.lookup name <;> rfl

theorem presentOr_cons_of_ne {present : String → Option Node} {other : String}
    (h : other ≠ name) :
    presentOr ((name, node) :: fields) present other = presentOr fields present other := by
  rw [presentOr, lookup_cons_eq_if, if_neg h, presentOr]

/-- A field that does not come again decides what stands in it. -/
theorem presentOr_cons {present : String → Option Node} (h : name ∉ fields.names) :
    presentOr ((name, node) :: fields) present =
      presentOr fields (Function.update present name node.present?) := by
  funext other
  by_cases hname : other = name
  · subst hname
    simp [presentOr, lookup_eq_none h]
  · rw [presentOr_cons_of_ne hname, presentOr, presentOr, Function.update_of_ne hname]

theorem IsTidy.of_cons {field : String × Node} (h : IsTidy known (field :: fields)) :
    IsTidy known fields where
  once name hname :=
    Nat.le_trans ((List.sublist_cons_self _ _).count_le name) (h.once name hname)
  whole other hother := h.whole other (List.mem_cons_of_mem field hother)

/-- A known field does not come again. -/
theorem IsTidy.notMem_names (h : IsTidy known ((name, node) :: fields)) (hname : name ∈ known) :
    name ∉ fields.names := by
  have honce := h.once name hname
  rw [names, List.map_cons, List.count_cons_self] at honce
  exact List.count_eq_zero.1 (Nat.le_zero.1 (Nat.le_of_succ_le_succ honce))

end Fields

/-! ### Decoders for one node -/

/-- Reading goes on with what was read first. -/
theorem Decode.Reads.next {x : Decode α} {f : α → Decode β} {a : α} {result : Option β}
    (hx : Reads limit x (some a) 0) (hf : Reads limit (f a) result 0) :
    Reads limit (x >>= f) result 0 :=
  hx.bind (g := fun _ => result) fun _ h => Option.some.inj h ▸ hf

/-- Where the reading has something, the node stands for itself, and the decoder reads just that. -/
def Decode.Understands (limit : Nat) (decoder : Node → Decode α) (reading : Node → α → Prop) :
    Prop :=
  ∀ node a, reading node a → node.isBare = true ∧ Reads limit (decoder node) (some a) 0

namespace Document

variable {document : Document} {name : String} {node : Node}

theorem reads_text_of_scalar {text : String} (h : node.text? = some text) (expected : String)
    (path : Path) : Reads limit (document.text expected path node) (some text) 0 := by
  cases node with
  | scalar =>
    cases h
    exact reads_pure _
  | seq | map | «alias» | void | cut => cases h

theorem understands_text (expected : String) (path : Path) :
    Understands limit (document.text expected path) fun node text =>
      node.bareText? = some text := by
  intro node text h
  cases node with
  | scalar mark tag other style =>
    cases tag with
    | none =>
      cases h
      exact ⟨rfl, reads_text_of_scalar rfl expected path⟩
    | some tag => cases h
  | seq | map | «alias» | void | cut => cases h

/-- Parts are read one after another. -/
theorem reads_items_of_forall₂ {decoder : PathStep → Node → Decode α} {nodes : List Node}
    {found : List α}
    (h : nodes.Forall₂ (fun node a => ∀ step, Reads limit (decoder step node) (some a) 0) found)
    (i : Nat) : Reads limit (items decoder i nodes) (some found) 0 := by
  induction h generalizing i with
  | nil => exact reads_pure []
  | cons hfirst _ ih => exact (hfirst _).bind fun first _ => (ih (i + 1)).map (first :: ·)

theorem understands_sequence (expected : String) (path : Path) :
    Understands limit
      (fun node => document.sequence path node (document.text expected))
      fun node texts => node.texts? = some texts := by
  intro node texts h
  cases node with
  | seq mark tag items cut =>
    cases cut with
    | some e => cases h
    | none =>
      have htexts : items.Forall₂ (fun node text => ∀ step : PathStep,
          Reads limit (document.text expected (step :: path) node) (some text) 0) texts :=
        (mapM_eq_some_iff.1 h).imp fun _ _ hnode step => reads_text_of_scalar hnode _ _
      exact ⟨rfl, ((reads_items_of_forall₂ htexts 0).uncut none id).placed mark path⟩
  | scalar | map | «alias» | void | cut => cases h

theorem understands_choice (known : List (String × α)) (path : Path) :
    Understands limit (document.choice known path) fun node a =>
      (node.bareText?.bind fun text => known.lookup text) = some a := by
  intro node a h
  cases node with
  | scalar mark tag text style =>
    cases tag with
    | some tag => cases h
    | none =>
      have hknown : known.lookup text = some a := h
      have hchoice : document.choice known path (.scalar mark none text style) =
          placed mark path (pure a) := by
        simp [choice, follow, localTag?, hknown]
      rw [hchoice]
      exact ⟨rfl, (reads_pure a).placed mark path⟩
  | seq | map | «alias» | void | cut => cases h

/-- Whatever is whole can be passed over. -/
theorem reads_ignored (h : node.isWhole = true) : Reads limit (ignored node) (some ()) 0 := by
  cases node with
  | seq mark tag items cut | map mark tag entries cut =>
    cases cut with
    | none => exact reads_pure ()
    | some e => cases h
  | scalar | «alias» | void => exact reads_pure ()
  | cut => cases h

/-- An optional part that stands for itself. -/
theorem optional_eq (h : node.isBare = true) (decoder : Node → Decode α) :
    document.optional node decoder =
      if node.isNull then pure none else some <$> decoder node := by
  cases node with
  | scalar mark tag text style =>
    cases tag with
    | none => cases style <;> rfl
    | some tag => cases h
  | seq | map => rfl
  | «alias» | void | cut => cases h

/-- **An optional part** reads nothing from nothing, and else what its decoder reads. -/
theorem reads_optional {decoder : Node → Decode α} {reading : Node → α → Prop}
    (hdecoder : Understands limit decoder reading) {value : Option α}
    (hvalue : Option.Rel reading node.present? value) :
    Reads limit (document.optional node decoder) (some value) 0 := by
  rw [Node.present?] at hvalue
  split at hvalue
  · rename_i hnull
    cases hvalue
    rw [optional_eq (Node.isBare_of_isNull hnull), if_pos hnull]
    exact reads_pure none
  · rename_i hnull
    cases hvalue with
    | some hreading =>
      obtain ⟨hbare, hread⟩ := hdecoder _ _ hreading
      rw [optional_eq hbare, if_neg hnull, map_eq_pure_bind]
      exact hread.map some

end Document

/-! ### Records -/

/-- **The fields of a record follow a reading** of what stands in them: it looks at the known fields
alone, and each field reads its own part, if what stands there fits. -/
structure RecordField.Follow (limit : Nat) (schema : List (RecordField α))
    (fits : String → Node → Prop) (reading : (String → Option Node) → α) : Prop where
  congr : ∀ present other : String → Option Node,
    (∀ name ∈ schema.map RecordField.name, present name = other name) →
      reading present = reading other
  field : ∀ field ∈ schema, ∀ path node present,
    (∀ target ∈ node.present?, fits field.name target) →
      Reads limit (field.read path node (reading present))
        (some (reading (Function.update present field.name node.present?))) 0

variable {schema : List (RecordField α)} {document : Document} {fields : Fields}
  {entries : List (Node × Node)} {name : String} {node : Node}

namespace RecordField

theorem notMem_of_find? (h : schema.find? (·.name == name) = none) :
    name ∉ schema.map RecordField.name := by
  intro hmem
  obtain ⟨field, hfield, rfl⟩ := List.mem_map.1 hmem
  exact List.find?_eq_none.1 h field hfield (beq_self_eq_true _)

theorem of_find? {field : RecordField α} (h : schema.find? (·.name == name) = some field) :
    field ∈ schema ∧ field.name = name :=
  ⟨List.mem_of_find?_eq_some h, by simpa using List.find?_some h⟩

/-- **A record reads its fields in whatever order they stand.** -/
theorem Follow.reads_fieldsFrom {fits : String → Node → Prop}
    {reading : (String → Option Node) → α} (h : Follow limit schema fits reading)
    (hentries : entries.mapM (pair? Node.text? some) = some fields)
    (htidy : fields.IsTidy (schema.map RecordField.name))
    (hfits : ∀ field ∈ fields, field.1 ∈ schema.map RecordField.name →
      ∀ target ∈ field.2.present?, fits field.1 target)
    {seen : List String} (hseen : ∀ name ∈ fields.names, name ∉ seen) (path : Path)
    (present : String → Option Node) :
    Reads limit (document.fieldsFrom path schema seen entries (reading present))
      (some (reading (fields.presentOr present))) 0 := by
  rw [mapM_eq_some_iff] at hentries
  -- What was read so far is the reading of the fields passed so far, which `present` holds.
  induction hentries generalizing seen present with
  | nil => exact reads_pure _
  | @cons entry field entries fields hentry hrest ih =>
    obtain ⟨key, value⟩ := entry
    obtain ⟨name, node⟩ := field
    obtain ⟨hkey, hvalue⟩ := pair?_eq_some_iff.1 hentry
    obtain rfl : value = node := Option.some.inj hvalue
    obtain ⟨hnew, hseenRest⟩ := List.forall_mem_cons.1 hseen
    replace ih := @ih htidy.of_cons (List.forall_mem_cons.1 hfits).2
    rw [Document.fieldsFrom]
    refine (Document.reads_text_of_scalar hkey _ path).next ?_
    cases hfind : schema.find? (·.name == name) with
    | none =>
      have hunknown := notMem_of_find? hfind
      have hreading : reading (Fields.presentOr ((name, value) :: fields) present) =
          reading (Fields.presentOr fields present) :=
        h.congr _ _ fun other hother =>
          Fields.presentOr_cons_of_ne (ne_of_mem_of_not_mem hother hunknown)
      rw [hreading]
      exact (Document.reads_ignored (htidy.whole _ List.mem_cons_self hunknown)).next
        (ih hseenRest present)
    | some field =>
      obtain ⟨hfield, rfl⟩ := of_find? hfind
      have hknown := List.mem_map_of_mem (f := RecordField.name) hfield
      have hagain := htidy.notMem_names hknown
      have hseenNow : ∀ name ∈ Fields.names fields, name ∉ field.name :: seen :=
        fun other hother => List.not_mem_cons_of_ne_of_not_mem
          (ne_of_mem_of_not_mem hother hagain) (hseenRest other hother)
      dsimp only
      rw [if_neg (by simpa using hnew), Fields.presentOr_cons hagain]
      exact (h.field field hfield _ value present (hfits _ List.mem_cons_self hknown)).next
        (ih hseenNow _)

end RecordField

namespace Document

theorem reads_mapping_of_fields? {decoder : List (Node × Node) → Decode α} {result : Option α}
    (hfields : node.fields? = some fields)
    (h : ∀ entries : List (Node × Node), entries.mapM (pair? Node.text? some) = some fields →
      Reads limit (decoder entries) result 0) (expected : String) (path : Path) :
    Reads limit (document.mapping expected path node decoder) result 0 := by
  cases node with
  | map mark tag entries cut =>
    cases cut with
    | none =>
      have hread := ((h entries hfields).uncut none id).placed mark path
      rwa [Option.map_id] at hread
    | some e => cases hfields
  | scalar | seq | «alias» | void | cut => cases hfields

end Document

/-- **A record** whose fields follow a reading is read as that. -/
theorem RecordField.Follow.understands_record {fits : String → Node → Prop}
    {reading : (String → Option Node) → α} (h : Follow limit schema fits reading)
    (expected : String) (path : Path) :
    Understands limit (document.record expected (reading fun _ => none) schema path)
      fun node a => ∃ fields, node.fields? = some fields ∧
        fields.IsTidy (schema.map RecordField.name) ∧
        (∀ name ∈ schema.map RecordField.name, ∀ target ∈ fields.present? name,
          fits name target) ∧
        a = reading fields.present? := by
  rintro node _ ⟨fields, hfields, htidy, hfits, rfl⟩
  refine ⟨Node.isBare_of_fields? hfields, ?_⟩
  refine Document.reads_mapping_of_fields? hfields (fun entries hentries => ?_) expected path
  rw [← Fields.presentOr_none]
  refine h.reads_fieldsFrom hentries htidy (fun field hmem hknown target htarget => ?_)
    (fun _ _ => List.not_mem_nil) path _
  refine hfits field.1 hknown target ?_
  rw [Fields.present?, (Fields.lookup_eq_some_iff (htidy.once _ hknown)).2 hmem]
  exact htarget

/-! ### What is never read -/

namespace Decode

variable {x : Decode α} {f : α → Decode β} {n : Nat}

theorem Reads.none_bind (hx : Reads limit x none n) : Reads limit (x >>= f) none n := by
  intro count b count'
  rw [bind_eq_ok_iff]
  refine ⟨?_, nofun⟩
  rintro ⟨a, next, hfirst, -⟩
  exact nomatch ((hx _ _ _).1 hfirst).1

theorem reads_bind_none (h : ∀ a, Reads limit (f a) none n) : Reads limit (x >>= f) none n := by
  intro count b count'
  rw [bind_eq_ok_iff]
  refine ⟨?_, nofun⟩
  rintro ⟨a, next, -, hrest⟩
  exact nomatch ((h a _ _ _).1 hrest).1

end Decode

namespace Document

/-- A record is not read if there is no way past one of its fields. -/
theorem reads_fieldsFrom_cons_none {key value : Node} {other : String} {seen : List String}
    {path : Path} {found : α} (hkey : key.text? = some other)
    (hunknown : schema.find? (·.name == other) = none →
      Reads limit (document.fieldsFrom path schema seen entries found) none 0)
    (hknown : ∀ field, schema.find? (·.name == other) = some field → other ∉ seen →
      Reads limit
        (do
          let found ← field.read (.ofKey key :: path) value found
          document.fieldsFrom path schema (other :: seen) entries found)
        none 0) :
    Reads limit (document.fieldsFrom path schema seen ((key, value) :: entries) found) none 0 := by
  rw [fieldsFrom]
  refine (reads_text_of_scalar hkey _ path).next ?_
  cases hfind : schema.find? (·.name == other) with
  | none => exact reads_bind_none fun _ => hunknown hfind
  | some field =>
    dsimp only
    split
    · exact reads_refuse _
    · rename_i hnew
      exact hknown field hfind (by simpa using hnew)

/-- A known field that was seen before, or comes twice, keeps all fields from being read. -/
theorem reads_fieldsFrom_repeated (hentries : entries.mapM (pair? Node.text? some) = some fields)
    (hname : name ∈ schema.map RecordField.name) {seen : List String} (hseen : seen.Nodup)
    (hcount : 1 < (fields.names ++ seen).count name) (path : Path) (found : α) :
    Reads limit (document.fieldsFrom path schema seen entries found) none 0 := by
  rw [mapM_eq_some_iff] at hentries
  -- A known field moves from the names to come to those seen, so it counts as often as before.
  induction hentries generalizing seen found with
  | nil => exact absurd (List.nodup_iff_count_le_one.1 hseen name) (Nat.not_le.2 hcount)
  | cons hentry _ ih =>
    obtain ⟨hkey, -⟩ := pair?_eq_some_iff.1 hentry
    refine reads_fieldsFrom_cons_none hkey (fun hfind => ih hseen ?_ found) fun _ _ hnew =>
      reads_bind_none (ih (List.nodup_cons.2 ⟨hnew, hseen⟩) ?_)
    · have hne := ne_of_mem_of_not_mem hname (RecordField.notMem_of_find? hfind)
      rwa [Fields.names, List.map_cons, List.cons_append, List.count_cons_of_ne hne.symm] at hcount
    · rwa [List.perm_middle.count_eq]

/-- **A record with a known field that comes again** is never read. -/
theorem reads_record_repeated (hfields : node.fields? = some fields)
    (h : fields.Repeats (schema.map RecordField.name)) (expected : String) (blank : α)
    (path : Path) : Reads limit (document.record expected blank schema path node) none 0 := by
  obtain ⟨name, hname, hcount⟩ := h
  refine reads_mapping_of_fields? hfields (fun entries hentries => ?_) expected path
  refine reads_fieldsFrom_repeated hentries hname List.nodup_nil ?_ path blank
  rwa [List.append_nil]

/-- A known field that cannot be read keeps all fields from being read. -/
theorem reads_fieldsFrom_of_mem (hentries : entries.mapM (pair? Node.text? some) = some fields)
    {field : RecordField α} (hfind : schema.find? (·.name == name) = some field)
    (hmem : (name, node) ∈ fields)
    (hread : ∀ path found, Reads limit (field.read path node found) none 0)
    (seen : List String) (path : Path) (found : α) :
    Reads limit (document.fieldsFrom path schema seen entries found) none 0 := by
  rw [mapM_eq_some_iff] at hentries
  induction hentries generalizing seen found with
  | nil => cases hmem
  | cons hentry _ ih =>
    obtain ⟨hkey, hvalue⟩ := pair?_eq_some_iff.1 hentry
    rcases List.mem_cons.1 hmem with heq | hmem
    · subst heq
      refine reads_fieldsFrom_cons_none hkey (fun hnone => ?_) fun other hother _ => ?_
      · cases hfind.symm.trans hnone
      · obtain rfl : field = other := Option.some.inj (hfind.symm.trans hother)
        rw [Option.some.inj hvalue]
        exact (hread _ found).none_bind
    · exact reads_fieldsFrom_cons_none hkey (fun _ => ih hmem seen found) fun _ _ _ =>
        reads_bind_none (ih hmem _)

/-- An optional mapping that cannot be read is not passed over. -/
theorem reads_optional_none {decoder : Node → Decode α} (hfields : node.fields? = some fields)
    (h : Reads limit (decoder node) none 0) :
    Reads limit (document.optional node decoder) none 0 := by
  rw [optional_eq (Node.isBare_of_fields? hfields), Node.isNull_of_fields? hfields,
    if_neg Bool.false_ne_true, map_eq_pure_bind]
  exact h.map some

/-- Where there is nothing to read in the root, decoding fails. -/
theorem exists_decode_eq_error {decoder : Node → Decode α} {n : Nat}
    (h : Reads limit (decoder document.root) none n) :
    ∃ e, document.decode decoder = .error e := by
  rw [decode]
  cases hrun : (decoder document.root).run 0 with
  | error e => exact ⟨e, rfl⟩
  | ok found =>
    have hfound := ((h 0 found.1 found.2).1 hrun).1
    cases hfound

end Document

end RuntimeLauncher.Yaml
