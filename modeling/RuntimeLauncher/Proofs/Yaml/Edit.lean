import Mathlib.Data.List.Perm.Basic
import RuntimeLauncher.Proofs.Yaml.Record

/-!
# Mappings that say the same

A mapping can be rewritten without changing what its known fields hold: the fields can be put into
another order, fields that are not known can come and go, and fields that hold nothing can be
dropped. Such changes move what follows them in the text. So nodes are compared without their
places.

## Main Definitions

* `Node.unmarked`, `Fields.unmarked` — nodes and fields without their places in the text
* `Fields.Edit` — one change to the fields of a mapping

## Main Statements

* `Fields.present?_unmarked`, `Node.fields?_unmarked` — fields without their places
* `Fields.Edit.isTidy` — the fields stay tidy
* `Fields.Edit.present?_eq` — the known fields hold the same

## Design Notes

A field is added or dropped in front, and a permutation brings it to its place or from there. A
field that is not known can be added again and again, even under one name.
-/

namespace RuntimeLauncher.Yaml

/-! ### Without places -/

mutual

/-- The node without its places in the text. -/
def Node.unmarked : Node → Node
  | .scalar _ tag text style => .scalar .start tag text style
  | .seq _ tag items broken => .seq .start tag (Node.unmarkedItems items) broken
  | .map _ tag entries broken => .map .start tag (Node.unmarkedEntries entries) broken
  | .alias number => .alias number
  | .void _ => .void .start
  | .cut e => .cut e

/-- `Node.unmarked` for each item. -/
def Node.unmarkedItems : List Node → List Node
  | [] => []
  | item :: rest => item.unmarked :: Node.unmarkedItems rest

/-- `Node.unmarked` for each key and each value. -/
def Node.unmarkedEntries : List (Node × Node) → List (Node × Node)
  | [] => []
  | (key, value) :: rest => (key.unmarked, value.unmarked) :: Node.unmarkedEntries rest

end

/-- The fields without their places in the text. -/
def Fields.unmarked (fields : Fields) : Fields :=
  fields.map fun field => (field.1, field.2.unmarked)

namespace Node

variable (node : Node)

@[simp]
theorem isNull_unmarked : node.unmarked.isNull = node.isNull := by
  cases node with
  | scalar mark tag text style => cases tag <;> cases style <;> rfl
  | seq | map | «alias» | void | cut => rfl

theorem present?_unmarked : node.unmarked.present? = node.present?.map unmarked := by
  rw [present?, present?, isNull_unmarked]
  split <;> rfl

@[simp]
theorem isWhole_unmarked : node.unmarked.isWhole = node.isWhole := by
  cases node <;> rfl

@[simp]
theorem text?_unmarked : node.unmarked.text? = node.text? := by
  cases node <;> rfl

@[simp]
theorem bareText?_unmarked : node.unmarked.bareText? = node.bareText? := by
  cases node with
  | scalar mark tag => cases tag <;> rfl
  | seq | map | «alias» | void | cut => rfl

theorem mapM_text?_unmarkedItems (items : List Node) :
    (unmarkedItems items).mapM text? = items.mapM text? := by
  induction items with
  | nil => rfl
  | cons item rest ih =>
    rw [unmarkedItems, mapM_cons_eq_bind, mapM_cons_eq_bind, text?_unmarked, ih]

@[simp]
theorem texts?_unmarked : node.unmarked.texts? = node.texts? := by
  cases node with
  | seq mark tag items broken =>
    cases broken with
    | none => exact mapM_text?_unmarkedItems items
    | some e => rfl
  | scalar | map | «alias» | void | cut => rfl

theorem mapM_pair?_unmarkedEntries (entries : List (Node × Node)) :
    (unmarkedEntries entries).mapM (pair? text? some) =
      (entries.mapM (pair? text? some)).map Fields.unmarked := by
  induction entries with
  | nil => rfl
  | cons entry rest ih =>
    rw [unmarkedEntries, mapM_cons_eq_bind, mapM_cons_eq_bind, ih]
    simp only [pair?, text?_unmarked]
    cases entry.1.text? with
    | none => rfl
    | some name => cases rest.mapM (pair? text? some) <;> rfl

/-- The fields of a node without places are those of the node. -/
theorem fields?_unmarked : node.unmarked.fields? = node.fields?.map Fields.unmarked := by
  cases node with
  | map mark tag entries broken =>
    cases broken with
    | none => exact mapM_pair?_unmarkedEntries entries
    | some e => rfl
  | scalar | seq | «alias» | void | cut => rfl

end Node

namespace Fields

variable {known : List String} {fields other : Fields} {name : String} {node : Node}

@[simp]
theorem names_unmarked (fields : Fields) : fields.unmarked.names = fields.names := by
  rw [names, unmarked, List.map_map]
  rfl

theorem present?_unmarked (fields : Fields) (name : String) :
    fields.unmarked.present? name = (fields.present? name).map Node.unmarked := by
  have hlookup : fields.unmarked.lookup name = (fields.lookup name).map Node.unmarked := by
    induction fields with
    | nil => rfl
    | cons field rest ih =>
      rw [unmarked, List.map_cons, Sorted.lookup_cons_eq_if, Sorted.lookup_cons_eq_if]
      split
      · rfl
      · exact ih
  rw [present?, hlookup, present?]
  cases fields.lookup name with
  | none => rfl
  | some node => exact node.present?_unmarked

theorem isTidy_unmarked_iff : fields.unmarked.IsTidy known ↔ fields.IsTidy known := by
  constructor
  · intro h
    refine ⟨by simpa using h.once, fun field hmem hname => ?_⟩
    simpa using h.whole _ (List.mem_map_of_mem hmem) hname
  · intro h
    refine ⟨by simpa using h.once, fun field hmem hname => ?_⟩
    obtain ⟨original, horiginal, rfl⟩ := List.mem_map.1 hmem
    simpa using h.whole original horiginal hname

theorem repeats_unmarked_iff : fields.unmarked.Repeats known ↔ fields.Repeats known := by
  rw [Repeats, names_unmarked, Repeats]

/-! ### Changes that say nothing new -/

/-- One change to the fields of a mapping: they are put into another order, a field that is not
known is added with any whole value or dropped, or a field that holds nothing is dropped. -/
inductive Edit (known : List String) : Fields → Fields → Prop
  | permute {fields other : Fields} (h : fields.Perm other) : Edit known fields other
  | addUnknown {fields : Fields} {name : String} {node : Node} (hname : name ∉ known)
    (hwhole : node.isWhole = true) : Edit known fields ((name, node) :: fields)
  | dropUnknown {fields : Fields} {name : String} {node : Node} (hname : name ∉ known) :
    Edit known ((name, node) :: fields) fields
  | dropNull {fields : Fields} {name : String} {node : Node} (hnull : node.isNull = true) :
    Edit known ((name, node) :: fields) fields

/-- **The fields stay tidy** when they are changed. -/
theorem Edit.isTidy (h : Edit known fields other) (htidy : fields.IsTidy known) :
    other.IsTidy known := by
  cases h with
  | permute hperm =>
    refine ⟨fun name hname => ?_, fun field hmem => htidy.whole field (hperm.mem_iff.2 hmem)⟩
    rw [names, ← (hperm.map Prod.fst).count_eq]
    exact htidy.once name hname
  | @addUnknown _ added node hadded hwhole =>
    constructor
    · intro name hname
      rw [names, List.map_cons, List.count_cons_of_ne (ne_of_mem_of_not_mem hname hadded).symm]
      exact htidy.once name hname
    · exact List.forall_mem_cons.2 ⟨fun _ => hwhole, htidy.whole⟩
  | dropUnknown | dropNull => exact htidy.of_cons

/-- **The known fields hold the same** when the fields are changed. -/
theorem Edit.present?_eq (h : Edit known fields other) (htidy : fields.IsTidy known)
    (hname : name ∈ known) : other.present? name = fields.present? name := by
  have honce := (h.isTidy htidy).once name hname
  cases h with
  | permute hperm =>
    have hlookup : other.lookup name = fields.lookup name := by
      ext node
      rw [lookup_eq_some_iff honce, lookup_eq_some_iff (htidy.once name hname), hperm.mem_iff]
    rw [present?, present?, hlookup]
  | addUnknown hadded hwhole =>
    exact present?_cons_of_ne (ne_of_mem_of_not_mem hname hadded)
  | dropUnknown hdropped => exact (present?_cons_of_ne (ne_of_mem_of_not_mem hname hdropped)).symm
  | @dropNull _ dropped node hnull =>
    by_cases heq : name = dropped
    · subst heq
      rw [present?_cons_self, Node.present?, if_pos hnull, present?,
        lookup_eq_none (htidy.notMem_names hname), Option.bind_none]
    · exact (present?_cons_of_ne heq).symm

end Fields

end RuntimeLauncher.Yaml
