import Mathlib.Logic.Relation
import RuntimeLauncher.Proofs.Settings.File
import RuntimeLauncher.Proofs.Yaml.Edit

/-!
# Settings files that say the same

What a settings file sets depends on its known fields that hold something, and on nothing else. Its
fields can be put into another order, fields of later versions can be added, and fields that hold
nothing can be dropped, in the root and in the sections alike. A known field that comes again is no
such change: the file is refused then.

## Main Definitions

* `Layer.Edit` — one change to the fields of a settings file

## Main Statements

* `Layer.Edit.node?_eq`, `Layer.Edit.shaped` — what a change keeps
* `Layer.Edit.reading_eq` — a changed file sets the same
* `Layer.ofDocument_known_fields` — what a settings file sets, and what does not matter to it

## Design Notes

Two files are compared by the fields of their roots without places in the text. A change inside a
section leaves the fields around it as they are.
-/

namespace RuntimeLauncher

open Yaml

variable {α : Type} {fields other : Fields} {node : Node}

/-! ### Places of settings -/

namespace Layer.Section

theorem name_mem_known (part : Section) : part.name ∈ Layer.known := by
  cases part <;> decide

theorem name_injective : Function.Injective Section.name := by
  intro part other h
  cases part <;> cases other <;> first | rfl | exact absurd h (by decide)

theorem within_unmarked (part : Section) (fields : Fields) :
    part.within fields.unmarked = (part.within fields).unmarked := by
  rw [within, within, Fields.present?_unmarked]
  cases fields.present? part.name with
  | none => rfl
  | some node =>
    rw [Option.map_some, Option.bind_some, Option.bind_some, Node.fields?_unmarked]
    cases node.fields? <;> rfl

end Layer.Section

namespace Leaf

theorem name_mem_known (leaf : Leaf α) (h : leaf.section? = none) : leaf.name ∈ Layer.known := by
  cases leaf <;> cases h <;> decide

theorem name_mem_part {part : Layer.Section} (leaf : Leaf α) (h : leaf.section? = some part) :
    leaf.name ∈ part.known := by
  cases leaf <;> cases h <;> decide

/-- No setting of the root has its place where a section has it. -/
theorem name_ne_section (leaf : Leaf α) (h : leaf.section? = none) (part : Layer.Section) :
    leaf.name ≠ part.name := by
  cases leaf <;> cases h <;> cases part <;> decide

@[simp]
theorem read?_unmarked (leaf : Leaf α) (node : Node) :
    leaf.read? node.unmarked = leaf.read? node := by
  cases leaf <;> simp [read?, Node.hive?]

theorem node?_unmarked (leaf : Leaf α) (fields : Fields) :
    leaf.node? fields.unmarked = (leaf.node? fields).map Node.unmarked := by
  rw [node?, node?, ← Fields.present?_unmarked]
  cases leaf.section? with
  | none => rfl
  | some part => rw [Option.elim_some, Option.elim_some, Layer.Section.within_unmarked]

end Leaf

namespace Layer

/-! ### Files without places -/

/-- A layer does not depend on places in the text. -/
theorem reading_unmarked (fields : Fields) :
    reading fields.unmarked.present? = reading fields.present? := by
  refine eq_of_inLayer (fun part => ?_) fun leaf => ?_
  · rw [isIn_reading, isIn_reading, Fields.present?_unmarked, Option.isSome_map]
  · rw [inLayer_reading, inLayer_reading, leaf.node?_unmarked]
    cases leaf.node? fields with
    | none => rfl
    | some node => exact leaf.read?_unmarked node

theorem Shaped.of_unmarked (h : Shaped fields.unmarked) : Shaped fields where
  toIsTidy := Fields.isTidy_unmarked_iff.1 h.toIsTidy
  sections part node hnode := by
    have hpresent : fields.unmarked.present? part.name = some node.unmarked := by
      rw [Fields.present?_unmarked, hnode, Option.map_some]
    obtain ⟨inner, hinner, htidy⟩ := h.sections part _ hpresent
    rw [Node.fields?_unmarked] at hinner
    obtain ⟨original, horiginal, rfl⟩ := Option.map_eq_some_iff.1 hinner
    exact ⟨original, horiginal, Fields.isTidy_unmarked_iff.1 htidy⟩
  leaves leaf node hnode := by
    rw [← leaf.read?_unmarked]
    exact h.leaves leaf _ (by rw [leaf.node?_unmarked, hnode]; rfl)

theorem Repeats.of_unmarked (h : Repeats fields.unmarked) : Repeats fields := by
  rcases h with hroot | ⟨part, node, inner, hmem, hinner, hpart⟩
  · exact .inl (Fields.repeats_unmarked_iff.1 hroot)
  · obtain ⟨⟨name, original⟩, horiginal, heq⟩ := List.mem_map.1 hmem
    obtain ⟨rfl, rfl⟩ := Prod.mk.inj heq
    rw [Node.fields?_unmarked] at hinner
    obtain ⟨found, hfound, rfl⟩ := Option.map_eq_some_iff.1 hinner
    exact .inr ⟨part, original, found, horiginal, hfound, Fields.repeats_unmarked_iff.1 hpart⟩

/-! ### Changes to a settings file -/

/-- One change to the fields of a settings file, in the root or inside a section. -/
inductive Edit : Fields → Fields → Prop
  | root {fields other : Fields} (h : Fields.Edit known fields other) : Edit fields other
  | within (part : Section) {fields inner edited : Fields} {node changed : Node}
    (hinner : node.fields? = some inner) (hedited : changed.fields? = some edited)
    (h : Fields.Edit part.known inner edited) :
    Edit ((part.name, node) :: fields) ((part.name, changed) :: fields)

namespace Edit

/-- In the root, a change keeps what stands in the known fields. -/
theorem node?_eq_of_root (h : Fields.Edit known fields other) (htidy : fields.IsTidy known)
    (leaf : Leaf α) : leaf.node? other = leaf.node? fields := by
  rw [Leaf.node?, Leaf.node?]
  cases hpart : leaf.section? with
  | none => exact h.present?_eq htidy (leaf.name_mem_known hpart)
  | some part =>
    rw [Option.elim_some, Option.elim_some, Section.within, Section.within,
      h.present?_eq htidy part.name_mem_known]

/-- A section does not depend on what the other one holds. -/
theorem present?_cons_section {part home : Section} (h : home ≠ part) :
    Fields.present? ((part.name, node) :: fields) home.name = fields.present? home.name :=
  Fields.present?_cons_of_ne (Section.name_injective.ne h)

/-- **A change keeps what stands in the places of settings.** -/
theorem node?_eq (h : Edit fields other) (hshaped : Shaped fields) (leaf : Leaf α) :
    leaf.node? other = leaf.node? fields := by
  cases h with
  | root h => exact node?_eq_of_root h hshaped.toIsTidy leaf
  | @within part rest inner edited node changed hinner hedited h =>
    rw [Leaf.node?, Leaf.node?]
    cases hpart : leaf.section? with
    | none =>
      have hne := leaf.name_ne_section hpart part
      rw [Option.elim_none, Option.elim_none, Fields.present?_cons_of_ne hne,
        Fields.present?_cons_of_ne hne]
    | some home =>
      rw [Option.elim_some, Option.elim_some]
      by_cases hhome : home = part
      · subst hhome
        obtain ⟨found, hfound, htidy⟩ :=
          hshaped.sections home node (Fields.present?_cons_of_fields? hinner)
        obtain rfl : found = inner := Option.some.inj (hfound.symm.trans hinner)
        rw [Section.within_eq (Fields.present?_cons_of_fields? hedited) hedited,
          Section.within_eq (Fields.present?_cons_of_fields? hinner) hinner]
        exact h.present?_eq htidy (leaf.name_mem_part hpart)
      · rw [Section.within, Section.within, present?_cons_section hhome,
          present?_cons_section hhome]

/-- **A change keeps the sections that are present.** -/
theorem isSome_present?_eq (h : Edit fields other) (hshaped : Shaped fields) (home : Section) :
    (other.present? home.name).isSome = (fields.present? home.name).isSome := by
  cases h with
  | root h => rw [h.present?_eq hshaped.toIsTidy home.name_mem_known]
  | @within part rest inner edited node changed hinner hedited h =>
    by_cases hhome : home = part
    · rw [hhome, Fields.present?_cons_of_fields? hinner, Fields.present?_cons_of_fields? hedited,
        Option.isSome_some, Option.isSome_some]
    · rw [present?_cons_section hhome, present?_cons_section hhome]

/-- **A changed file is still of the right shape.** -/
theorem shaped (h : Edit fields other) (hshaped : Shaped fields) : Shaped other := by
  have hleaves {α : Type} (leaf : Leaf α) : ∀ node ∈ leaf.node? other,
      ∃ value, leaf.read? node = some value := by
    rw [h.node?_eq hshaped leaf]
    exact hshaped.leaves leaf
  cases h with
  | root h =>
    refine ⟨h.isTidy hshaped.toIsTidy, fun part => ?_, hleaves⟩
    rw [h.present?_eq hshaped.toIsTidy part.name_mem_known]
    exact hshaped.sections part
  | @within part rest inner edited node changed hinner hedited h =>
    obtain ⟨-, hwhole⟩ := List.forall_mem_cons.1 hshaped.whole
    refine ⟨⟨hshaped.once, List.forall_mem_cons.2 ⟨absurd part.name_mem_known, hwhole⟩⟩,
      fun home => ?_, hleaves⟩
    by_cases hhome : home = part
    · subst hhome
      obtain ⟨found, hfound, htidy⟩ :=
        hshaped.sections home node (Fields.present?_cons_of_fields? hinner)
      obtain rfl : found = inner := Option.some.inj (hfound.symm.trans hinner)
      rw [Fields.present?_cons_of_fields? hedited]
      rintro _ ⟨⟩
      exact ⟨edited, hedited, h.isTidy htidy⟩
    · have hsame := hshaped.sections home
      rw [present?_cons_section hhome] at hsame ⊢
      exact hsame

/-- **A changed file sets the same.** -/
theorem reading_eq (h : Edit fields other) (hshaped : Shaped fields) :
    reading other.present? = reading fields.present? := by
  refine eq_of_inLayer (fun part => ?_) fun leaf => ?_
  · rw [isIn_reading, isIn_reading, h.isSome_present?_eq hshaped]
  · rw [inLayer_reading, inLayer_reading, h.node?_eq hshaped]

/-- Many changes one after another make no difference either. -/
theorem reading_eq_of_reflTransGen (h : Relation.ReflTransGen Edit fields other)
    (hshaped : Shaped fields) :
    Shaped other ∧ reading other.present? = reading fields.present? := by
  induction h with
  | refl => exact ⟨hshaped, rfl⟩
  | tail _ hedit ih => exact ⟨hedit.shaped ih.1, (hedit.reading_eq ih.1).trans ih.2⟩

end Edit

/-! ### Whole files -/

/-- **Fields without their places tell what a file sets.** -/
theorem ofDocument_eq_of_unmarked {document : Document} (hwell : document.isWellFormed = true)
    (hroot : document.root.unmarked.fields? = some fields) (h : Shaped fields) :
    ofDocument document = .ok (reading fields.present?) := by
  rw [Node.fields?_unmarked] at hroot
  obtain ⟨original, horiginal, rfl⟩ := Option.map_eq_some_iff.1 hroot
  rw [reading_unmarked]
  exact ofDocument_eq_reading hwell horiginal h.of_unmarked

/-- **What a settings file sets depends on its known fields that hold something.**  A file of the
right shape is read. A setting is open if nothing stands in its place, and else it has the value
that stands there: the scalar's own text, the texts of the sequence, or the hive of that name. A
section is present if it is a mapping. The same is read after any changes to the order of fields, to
fields that are not known, and to fields that hold nothing. A file in which a known field comes
again is refused. -/
theorem ofDocument_known_fields {document : Document} {fields : Fields}
    (hroot : document.root.unmarked.fields? = some fields) :
    (document.isWellFormed = true → Shaped fields →
      ∃ layer, ofDocument document = .ok layer ∧
        (∀ {α : Type} (leaf : Leaf α),
          Option.Rel (fun node value => leaf.read? node = some value) (leaf.node? fields)
            (leaf.inLayer layer)) ∧
        (∀ part : Section, part.isIn layer = (fields.present? part.name).isSome) ∧
        ∀ (changed : Document) (edited : Fields), changed.isWellFormed = true →
          changed.root.unmarked.fields? = some edited → Relation.ReflTransGen Edit fields edited →
            ofDocument changed = .ok layer) ∧
      (Repeats fields → ∃ e, ofDocument document = .error e) := by
  refine ⟨fun hwell hshaped => ?_, fun hrepeats => ?_⟩
  · refine ⟨_, ofDocument_eq_of_unmarked hwell hroot hshaped, fun leaf => ?_,
      fun part => isIn_reading part fields, fun changed edited hchanged hedited hedits => ?_⟩
    · rw [inLayer_reading]
      exact SettingField.rel_bind (hshaped.leaves leaf)
    · obtain ⟨hstill, hsame⟩ := Edit.reading_eq_of_reflTransGen hedits hshaped
      rw [ofDocument_eq_of_unmarked hchanged hedited hstill, hsame]
  · rw [Node.fields?_unmarked] at hroot
    obtain ⟨original, horiginal, rfl⟩ := Option.map_eq_some_iff.1 hroot
    exact exists_ofDocument_eq_error horiginal hrepeats.of_unmarked

/-- A plain scalar at a place. -/
def plainAt (index line column : Nat) (text : String) : Node :=
  .scalar ⟨index, line, column⟩ none text .plain

/-- A plain scalar without a place. -/
def plain (text : String) : Node := .scalar .start none text .plain

/-- A list of one version. -/
def versionList : Node := .seq .start none [plain "1.50"] none

/-- A section with a hive and nothing else. -/
def hiveOnly : Node := .map .start none [(plain "hive", plain "local_machine")] none

/-- A document without anchors that holds together. -/
def wholeDocument (size : Nat) (entries : List (Node × Node)) : Document :=
  ⟨.map .start none entries none, [], size, none, false⟩

/-- A file with a section, in which one field holds nothing, and a list. -/
def sparseFile : String := "runtime:\n  key: ~\n  hive: local_machine\nmarkers:\n- 1.50\n"

/-- What stands in `sparseFile`. -/
def sparseDocument : Document :=
  wholeDocument 13
    [(plainAt 0 0 0 "runtime", .map ⟨11, 1, 2⟩ none
      [(plainAt 11 1 2 "key", plainAt 16 1 7 "~"),
        (plainAt 20 2 2 "hive", plainAt 26 2 8 "local_machine")] none),
      (plainAt 40 3 0 "markers", .seq ⟨49, 4, 0⟩ none [plainAt 51 4 2 "1.50"] none)]

/-- The fields of `sparseFile`. -/
def sparseFields : Fields :=
  [("runtime", .map .start none
      [(plain "key", plain "~"), (plain "hive", plain "local_machine")] none),
    ("markers", versionList)]

/-- The file in another order, with an unknown field, and without the one that holds nothing. -/
def changedFile : String := "extra: []\nmarkers:\n- 1.50\nruntime:\n  hive: local_machine\n"

/-- What stands in `changedFile`. -/
def changedDocument : Document :=
  wholeDocument 14
    [(plainAt 0 0 0 "extra", .seq ⟨7, 0, 7⟩ none [] none),
      (plainAt 10 1 0 "markers", .seq ⟨19, 2, 0⟩ none [plainAt 21 2 2 "1.50"] none),
      (plainAt 26 3 0 "runtime", .map ⟨37, 4, 2⟩ none
        [(plainAt 37 4 2 "hive", plainAt 43 4 8 "local_machine")] none)]

/-- The fields of `changedFile`. -/
def changedFields : Fields :=
  [("extra", .seq .start none [] none), ("markers", versionList), ("runtime", hiveOnly)]

/-- A file in which one field comes twice with the same list. -/
def repeatedFile : String := "markers: [a]\nmarkers: [a]\n"

/-- What stands in `repeatedFile`. -/
def repeatedDocument : Document :=
  wholeDocument 10
    [(plainAt 0 0 0 "markers", .seq ⟨9, 0, 9⟩ none [plainAt 10 0 10 "a"] none),
      (plainAt 13 1 0 "markers", .seq ⟨22, 1, 9⟩ none [plainAt 23 1 10 "a"] none)]

theorem ofText_sparseFile : Document.ofText sparseFile = sparseDocument := by rfl

theorem ofText_changedFile : Document.ofText changedFile = changedDocument := by rfl

theorem ofText_repeatedFile : Document.ofText repeatedFile = repeatedDocument := by rfl

theorem sparseFields_shaped : Shaped sparseFields where
  once := by decide
  whole := by decide
  sections part node hnode := by
    cases part with
    | runtime =>
      cases hnode
      exact ⟨_, rfl, by decide, by decide⟩
    | proxy => cases hnode
  leaves leaf node hnode := by
    cases leaf <;> cases hnode <;> exact ⟨_, rfl⟩

theorem edits_sparseFields : Relation.ReflTransGen Edit sparseFields changedFields := by
  have hdrop : Edit sparseFields [("runtime", hiveOnly), ("markers", versionList)] :=
    .within .runtime rfl rfl (.dropNull rfl)
  have hswap : Edit [("runtime", hiveOnly), ("markers", versionList)]
      [("markers", versionList), ("runtime", hiveOnly)] := .root (.permute (.swap _ _ _))
  have hadd : Edit [("markers", versionList), ("runtime", hiveOnly)] changedFields :=
    .root (.addUnknown (by decide) rfl)
  exact ((Relation.ReflTransGen.single hdrop).tail hswap).tail hadd

/-- A changed file sets the same, and a repeated field is refused. -/
theorem ofDocument_known_fields_sparse :
    (∃ layer, decode sparseFile = .ok layer ∧ Leaf.runtimeHive.inLayer layer = some .localMachine ∧
      Leaf.runtimeKey.inLayer layer = none ∧ Leaf.markers.inLayer layer = some ["1.50"] ∧
      decode changedFile = .ok layer) ∧
    ∃ e, decode repeatedFile = .error e := by
  rw [decode, ofText_sparseFile, decode, ofText_changedFile, decode, ofText_repeatedFile]
  have hsparse : sparseDocument.root.unmarked.fields? = some sparseFields := by rfl
  have hchanged : changedDocument.root.unmarked.fields? = some changedFields := by rfl
  have hrepeated : repeatedDocument.root.unmarked.fields? =
      some [("markers", .seq .start none [plain "a"] none),
        ("markers", .seq .start none [plain "a"] none)] := by rfl
  obtain ⟨layer, hlayer, hleaves, -, hsame⟩ :=
    (ofDocument_known_fields hsparse).1 rfl sparseFields_shaped
  refine ⟨⟨layer, hlayer, ?_, ?_, ?_, hsame _ _ rfl hchanged edits_sparseFields⟩, ?_⟩
  · exact SettingField.eq_bind_of_rel (hleaves .runtimeHive)
  · exact SettingField.eq_bind_of_rel (hleaves .runtimeKey)
  · exact SettingField.eq_bind_of_rel (hleaves .markers)
  · exact (ofDocument_known_fields hrepeated).2 (.inl ⟨"markers", by decide, by decide⟩)

end Layer

end RuntimeLauncher
