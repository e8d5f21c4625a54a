import RuntimeLauncher.Proofs.Settings.Leaf
import RuntimeLauncher.Proofs.Yaml.Record
import RuntimeLauncher.Settings.File

/-!
# What a settings file sets

A settings file sets the settings whose fields it has, and leaves the others open. Every setting has
one place in the file: a field of the root, or a field of one of the two sections. Nothing else that
stands in the file takes part in it.

## Main Definitions

* `Layer.Section` — a section of a settings file
* `Leaf.section?`, `Leaf.name` — the place of a setting in a file
* `Leaf.node?`, `Leaf.read?` — what stands in that place, and the value it stands for
* `Layer.Shaped` — the fields of a file that can be read
* `Layer.reading` — the layer with what stands in the known fields
* `Layer.Repeats` — a known field comes again in the root or in a section

## Main Statements

* `RuntimeLayer.follow`, `ProxyLayer.follow`, `Layer.follow` — the fields of the three records
* `Layer.ofDocument_eq_reading` — a file of the right shape is read as its known fields say
* `Layer.inLayer_reading` — each setting is what stands in its own place
* `Layer.exists_ofDocument_eq_error` — a file in which a known field comes again is refused

## Design Notes

What a file sets is told from the nodes in its known fields, before anything is decoded. A node
that is nothing counts as absent there. A section that holds nothing is present all the same.
-/

namespace RuntimeLauncher

open Yaml Yaml.Decode

variable {α β : Type} {limit : Nat} {document : Document} {fields : Fields}

/-- The hive that a scalar names. -/
def Yaml.Node.hive? (node : Node) : Option Hive :=
  node.bareText?.bind fun text => Hive.byName.lookup text

/-! ### Places in a settings file -/

/-- A section of a settings file. -/
inductive Layer.Section where
  | runtime
  | proxy
deriving DecidableEq

namespace Layer

namespace Section

/-- The field of the root that holds the section. -/
def name : Section → String
  | runtime => "runtime"
  | proxy => "proxy"

/-- The known fields of a section. -/
def known : Section → List String
  | runtime => ["hive", "key", "version_value", "home_value", "binary_suffix"]
  | proxy => ["hive", "key", "value", "property"]

/-- The fields of a section in a file. There are none if the section is absent. -/
def within (part : Section) (fields : Fields) : Fields :=
  ((fields.present? part.name).bind Node.fields?).getD []

/-- The section is present in a layer. -/
def isIn : Section → Layer → Bool
  | runtime, layer => layer.runtime.isSome
  | proxy, layer => layer.proxy.isSome

end Section

/-- The known fields of the root. -/
def known : List String :=
  ["runtime", "proxy", "env_overrides", "markers", "classpath_dirs", "archive_extension",
    "main_class", "store_file"]

end Layer

namespace Leaf

/-- The section of a setting, if it has one. -/
def section? : Leaf α → Option Layer.Section
  | runtimeHive | runtimeKey | runtimeVersionValue | runtimeHomeValue | runtimeBinarySuffix =>
    some .runtime
  | proxyHive | proxyKey | proxyValue | proxyProperty => some .proxy
  | overrideKeys | markers | classpathDirs | archiveExtension | mainClass | storeFile => none

/-- The field of a setting. -/
def name : Leaf α → String
  | runtimeHive | proxyHive => "hive"
  | runtimeKey | proxyKey => "key"
  | runtimeVersionValue => "version_value"
  | runtimeHomeValue => "home_value"
  | runtimeBinarySuffix => "binary_suffix"
  | proxyValue => "value"
  | proxyProperty => "property"
  | overrideKeys => "env_overrides"
  | markers => "markers"
  | classpathDirs => "classpath_dirs"
  | archiveExtension => "archive_extension"
  | mainClass => "main_class"
  | storeFile => "store_file"

/-- What stands in the place of a setting, unless it is nothing. -/
def node? (leaf : Leaf α) (fields : Fields) : Option Node :=
  Fields.present? (leaf.section?.elim fields fun part => part.within fields) leaf.name

/-- The value of a setting that a node stands for: the hive with that name, all the texts of a
sequence, or the text of a scalar. -/
def read? : Leaf α → Node → Option α
  | runtimeHive, node => node.hive?
  | proxyHive, node => node.hive?
  | overrideKeys, node => node.texts?
  | markers, node => node.texts?
  | classpathDirs, node => node.texts?
  | runtimeKey, node => node.bareText?
  | runtimeVersionValue, node => node.bareText?
  | runtimeHomeValue, node => node.bareText?
  | runtimeBinarySuffix, node => node.bareText?
  | proxyKey, node => node.bareText?
  | proxyValue, node => node.bareText?
  | proxyProperty, node => node.bareText?
  | archiveExtension, node => node.bareText?
  | mainClass, node => node.bareText?
  | storeFile, node => node.bareText?

end Leaf

/-- The fields of a settings file that can be read: known fields stand at most once, the sections
are mappings, and every setting has a value in its place, or nothing. -/
structure Layer.Shaped (fields : Fields) : Prop extends fields.IsTidy Layer.known where
  sections : ∀ (part : Layer.Section), ∀ node ∈ fields.present? part.name,
    ∃ inner, node.fields? = some inner ∧ Fields.IsTidy part.known inner
  leaves : ∀ {α : Type} (leaf : Leaf α), ∀ node ∈ leaf.node? fields,
    ∃ value, leaf.read? node = some value

/-! ### Readings of fields -/

/-- What a section for the runtime says whose fields hold these nodes. -/
def RuntimeLayer.reading (present : String → Option Node) : RuntimeLayer where
  hive := (present "hive").bind Node.hive?
  key := (present "key").bind Node.bareText?
  versionValue := (present "version_value").bind Node.bareText?
  homeValue := (present "home_value").bind Node.bareText?
  binarySuffix := (present "binary_suffix").bind Node.bareText?

/-- What a section for the proxy says whose fields hold these nodes. -/
def ProxyLayer.reading (present : String → Option Node) : ProxyLayer where
  hive := (present "hive").bind Node.hive?
  key := (present "key").bind Node.bareText?
  value := (present "value").bind Node.bareText?
  property := (present "property").bind Node.bareText?

namespace Layer

/-- What stands in the fields of a section, unless it is nothing. -/
def inside (node : Node) : String → Option Node := Fields.present? (node.fields?.getD [])

/-- What a settings file says whose fields hold these nodes. -/
def reading (present : String → Option Node) : Layer where
  runtime := (present "runtime").map fun node => .reading (inside node)
  proxy := (present "proxy").map fun node => .reading (inside node)
  overrideKeys := (present "env_overrides").bind Node.texts?
  markers := (present "markers").bind Node.texts?
  classpathDirs := (present "classpath_dirs").bind Node.texts?
  archiveExtension := (present "archive_extension").bind Node.bareText?
  mainClass := (present "main_class").bind Node.bareText?
  storeFile := (present "store_file").bind Node.bareText?

/-- The place of a setting inside a section. -/
theorem node?_of_section (leaf : Leaf α) (part : Section) (h : leaf.section? = some part)
    (fields : Fields) :
    leaf.node? fields = (fields.present? part.name).bind fun node => inside node leaf.name := by
  rw [Leaf.node?, h, Option.elim_some, Section.within]
  cases fields.present? part.name <;> rfl

/-- **Each setting is what stands in its own place.** -/
theorem inLayer_reading (leaf : Leaf α) (fields : Fields) :
    leaf.inLayer (reading fields.present?) = (leaf.node? fields).bind leaf.read? := by
  cases leaf with
  | runtimeHive | runtimeKey | runtimeVersionValue | runtimeHomeValue | runtimeBinarySuffix =>
    rw [node?_of_section _ .runtime]
    · simp only [Section.name, Leaf.inLayer, reading]
      cases fields.present? "runtime" <;> rfl
    · rfl
  | proxyHive | proxyKey | proxyValue | proxyProperty =>
    rw [node?_of_section _ .proxy]
    · simp only [Section.name, Leaf.inLayer, reading]
      cases fields.present? "proxy" <;> rfl
    · rfl
  | overrideKeys | markers | classpathDirs | archiveExtension | mainClass | storeFile => rfl

/-- **A layer is no more than its single settings** and the sections that are present. -/
theorem eq_of_inLayer {a b : Layer} (hparts : ∀ part : Section, part.isIn a = part.isIn b)
    (h : ∀ {α : Type} (leaf : Leaf α), leaf.inLayer a = leaf.inLayer b) : a = b := by
  obtain ⟨runtime, proxy, _, _, _, _, _, _⟩ := a
  obtain ⟨runtime', proxy', _, _, _, _, _, _⟩ := b
  cases h .overrideKeys
  cases h .markers
  cases h .classpathDirs
  cases h .archiveExtension
  cases h .mainClass
  cases h .storeFile
  have hruntime : runtime = runtime' := by
    rcases runtime with - | ⟨_, _, _, _, _⟩ <;> rcases runtime' with - | ⟨_, _, _, _, _⟩
    · rfl
    · cases hparts .runtime
    · cases hparts .runtime
    · cases h .runtimeHive
      cases h .runtimeKey
      cases h .runtimeVersionValue
      cases h .runtimeHomeValue
      cases h .runtimeBinarySuffix
      rfl
  have hproxy : proxy = proxy' := by
    rcases proxy with - | ⟨_, _, _, _⟩ <;> rcases proxy' with - | ⟨_, _, _, _⟩
    · rfl
    · cases hparts .proxy
    · cases hparts .proxy
    · cases h .proxyHive
      cases h .proxyKey
      cases h .proxyValue
      cases h .proxyProperty
      rfl
  rw [hruntime, hproxy]

theorem isIn_reading (part : Section) (fields : Fields) :
    part.isIn (reading fields.present?) = (fields.present? part.name).isSome := by
  cases part with
  | runtime | proxy => exact Option.isSome_map

end Layer

/-! ### What the fields read -/

namespace SettingField

variable {path : Yaml.Path} {node : Node} {layer : α}

/-- Where a node that is present has a value, the two correspond. -/
theorem rel_bind {read? : Node → Option β} {present : Option Node}
    (h : ∀ node ∈ present, ∃ value, read? node = some value) :
    Option.Rel (fun node value => read? node = some value) present (present.bind read?) := by
  cases present with
  | none => exact .none
  | some node =>
    obtain ⟨value, hvalue⟩ := h node rfl
    rw [Option.bind_some, hvalue]
    exact .some hvalue

theorem eq_bind_of_rel {read? : Node → Option β} {present : Option Node} {value : Option β}
    (h : Option.Rel (fun node value => read? node = some value) present value) :
    value = present.bind read? := by
  cases h with
  | none => rfl
  | some hvalue => exact hvalue.symm

theorem reads_decodeText (h : ∀ target ∈ node.present?, ∃ value, target.bareText? = some value)
    (expected : String) :
    Reads limit (decodeText document expected path node)
      (some (node.present?.bind Node.bareText?)) 0 :=
  Document.reads_optional (Document.understands_text expected path) (rel_bind h)

theorem reads_decodeTexts (h : ∀ target ∈ node.present?, ∃ value, target.texts? = some value) :
    Reads limit (decodeTexts document path node) (some (node.present?.bind Node.texts?)) 0 :=
  Document.reads_optional (Document.understands_sequence "a string" path) (rel_bind h)

theorem reads_decodeHive (h : ∀ target ∈ node.present?, ∃ value, target.hive? = some value) :
    Reads limit (decodeHive document path node) (some (node.present?.bind Node.hive?)) 0 :=
  Document.reads_optional (Document.understands_choice Hive.byName path) (rel_bind h)

end SettingField

open SettingField

/-- What stands in a field has the values of the settings that have their place there. -/
def Leaf.Fits (part? : Option Layer.Section) (name : String) (node : Node) : Prop :=
  ∀ {α : Type} (leaf : Leaf α), leaf.section? = part? → leaf.name = name →
    ∃ value, leaf.read? node = some value

/-- The node is a mapping that can be read as a section. -/
def Layer.Section.Fits (part : Layer.Section) (node : Node) : Prop :=
  ∃ inner, node.fields? = some inner ∧ Fields.IsTidy part.known inner ∧
    ∀ name ∈ part.known, ∀ target ∈ Fields.present? inner name, Leaf.Fits (some part) name target

/-- **The fields of the runtime's section.** -/
theorem RuntimeLayer.follow (limit : Nat) (document : Document) :
    RecordField.Follow limit (RuntimeLayer.fields document)
      (Leaf.Fits (some .runtime)) RuntimeLayer.reading where
  congr present other h := by
    simp only [RuntimeLayer.fields, hiveField, textField, List.map_cons, List.forall_mem_cons] at h
    simp [reading, h]
  field field hfield path node present hfits := by
    simp only [RuntimeLayer.fields, List.mem_cons, List.not_mem_nil, or_false] at hfield
    rcases hfield with rfl | rfl | rfl | rfl | rfl
    · exact (reads_decodeHive fun target h => hfits target h .runtimeHive rfl rfl).map _
    · exact (reads_decodeText (fun target h => hfits target h .runtimeKey rfl rfl) _).map _
    · exact (reads_decodeText (fun target h => hfits target h .runtimeVersionValue rfl rfl) _).map _
    · exact (reads_decodeText (fun target h => hfits target h .runtimeHomeValue rfl rfl) _).map _
    · exact (reads_decodeText (fun target h => hfits target h .runtimeBinarySuffix rfl rfl) _).map _

/-- **The fields of the proxy's section.** -/
theorem ProxyLayer.follow (limit : Nat) (document : Document) :
    RecordField.Follow limit (ProxyLayer.fields document)
      (Leaf.Fits (some .proxy)) ProxyLayer.reading where
  congr present other h := by
    simp only [ProxyLayer.fields, hiveField, textField, List.map_cons, List.forall_mem_cons] at h
    simp [reading, h]
  field field hfield path node present hfits := by
    simp only [ProxyLayer.fields, List.mem_cons, List.not_mem_nil, or_false] at hfield
    rcases hfield with rfl | rfl | rfl | rfl
    · exact (reads_decodeHive fun target h => hfits target h .proxyHive rfl rfl).map _
    · exact (reads_decodeText (fun target h => hfits target h .proxyKey rfl rfl) _).map _
    · exact (reads_decodeText (fun target h => hfits target h .proxyValue rfl rfl) _).map _
    · exact (reads_decodeText (fun target h => hfits target h .proxyProperty rfl rfl) _).map _

namespace Layer

/-- A section that is present is read field by field. -/
theorem reads_section {schema : List (RecordField α)} {reading : (String → Option Node) → α}
    {part : Section} (h : RecordField.Follow limit schema (Leaf.Fits (some part)) reading)
    (hknown : schema.map RecordField.name = part.known) {node : Node}
    (hnode : ∀ target ∈ node.present?, part.Fits target) (expected : String) (path : Yaml.Path) :
    Reads limit
      (document.optional node (document.record expected (reading fun _ => none) schema path))
      (some (node.present?.map fun target => reading (inside target))) 0 := by
  refine Document.reads_optional (h.understands_record expected path) ?_
  cases htarget : node.present? with
  | none => exact .none
  | some target =>
    obtain ⟨inner, hinner, htidy, hfits⟩ := hnode target htarget
    refine .some ⟨inner, hinner, hknown ▸ htidy, hknown ▸ hfits, ?_⟩
    simp only [inside, hinner, Option.getD_some]

/-- What stands in a field of the root can be read. -/
def Fits (name : String) (node : Node) : Prop :=
  (∀ part : Section, part.name = name → part.Fits node) ∧ Leaf.Fits none name node

/-- **The fields of the root.** -/
theorem follow (limit : Nat) (document : Document) :
    RecordField.Follow limit (Layer.fields document) Fits reading where
  congr present other h := by
    simp only [Layer.fields, sectionField, textsField, textField, List.map_cons,
      List.forall_mem_cons] at h
    simp [reading, h]
  field field hfield path node present hfits := by
    simp only [Layer.fields, List.mem_cons, List.not_mem_nil, or_false] at hfield
    have hpart : ∀ target ∈ node.present?, ∀ part : Section, part.name = field.name →
        part.Fits target := fun target h => (hfits target h).1
    have hleaf : ∀ target ∈ node.present?, Leaf.Fits none field.name target :=
      fun target h => (hfits target h).2
    rcases hfield with rfl | rfl | rfl | rfl | rfl | rfl | rfl | rfl
    · exact (reads_section (RuntimeLayer.follow limit document) rfl
        (fun target h => hpart target h .runtime rfl) _ path).map _
    · exact (reads_section (ProxyLayer.follow limit document) rfl
        (fun target h => hpart target h .proxy rfl) _ path).map _
    · exact (reads_decodeTexts fun target h => hleaf target h .overrideKeys rfl rfl).map _
    · exact (reads_decodeTexts fun target h => hleaf target h .markers rfl rfl).map _
    · exact (reads_decodeTexts fun target h => hleaf target h .classpathDirs rfl rfl).map _
    · exact (reads_decodeText (fun target h => hleaf target h .archiveExtension rfl rfl) _).map _
    · exact (reads_decodeText (fun target h => hleaf target h .mainClass rfl rfl) _).map _
    · exact (reads_decodeText (fun target h => hleaf target h .storeFile rfl rfl) _).map _

theorem Section.within_eq {part : Section} {node : Node} {inner : Fields}
    (h : fields.present? part.name = some node) (hinner : node.fields? = some inner) :
    part.within fields = inner := by
  rw [within, h, Option.bind_some, hinner, Option.getD_some]

theorem Shaped.fits (h : Shaped fields) {name : String} {node : Node}
    (hnode : fields.present? name = some node) : Fits name node := by
  constructor
  · rintro part rfl
    obtain ⟨inner, hinner, htidy⟩ := h.sections part node hnode
    refine ⟨inner, hinner, htidy, fun name _ target htarget α leaf hpart hname => ?_⟩
    refine h.leaves leaf target ?_
    rw [Leaf.node?, hpart, Option.elim_some, Section.within_eq hnode hinner, hname]
    exact htarget
  · intro α leaf hpart hname
    refine h.leaves leaf node ?_
    rw [Leaf.node?, hpart, Option.elim_none, hname]
    exact hnode

/-- **A file of the right shape is read as its known fields say.** -/
theorem ofDocument_eq_reading (hwell : document.isWellFormed = true)
    (hroot : document.root.fields? = some fields) (h : Shaped fields) :
    ofDocument document = .ok (reading fields.present?) := by
  have hread : Reads document.aliasLimit
      (document.record "struct LauncherConfig" blank (Layer.fields document) [] document.root)
      (some (reading fields.present?)) 0 :=
    ((follow document.aliasLimit document).understands_record _ [] document.root _
      ⟨fields, hroot, h.toIsTidy, fun _ _ _ hnode => h.fits hnode, rfl⟩).2
  exact (Document.decode_eq_ok_iff hwell hread).2 ⟨rfl, Nat.zero_le _⟩

/-! ### Fields that come again -/

/-- A known field stands more than once in the root, or in one of the sections. -/
def Repeats (fields : Fields) : Prop :=
  fields.Repeats known ∨ ∃ (part : Section) (node : Node) (inner : Fields),
    (part.name, node) ∈ fields ∧ node.fields? = some inner ∧ inner.Repeats part.known

theorem reads_sectionField_repeated {schema : List (RecordField α)} (part : Section)
    (hknown : schema.map RecordField.name = part.known) {node : Node} {inner : Fields}
    (hinner : node.fields? = some inner) (h : inner.Repeats part.known) (expected : String)
    (blank : α) (set : Layer → Option α → Layer) (path : Yaml.Path) (layer : Layer) :
    Reads limit
      ((sectionField document part.name expected blank schema set).read path node layer)
      none 0 := by
  refine Reads.none_bind (Document.reads_optional_none hinner ?_)
  exact Document.reads_record_repeated hinner (hknown ▸ h) expected blank path

/-- **A file in which a known field comes again is refused,** whatever else stands there. -/
theorem exists_ofDocument_eq_error (hroot : document.root.fields? = some fields)
    (h : Repeats fields) : ∃ e, ofDocument document = .error e := by
  have hread : Reads document.aliasLimit
      (document.record "struct LauncherConfig" blank (Layer.fields document) [] document.root)
      none 0 := by
    rcases h with hrepeats | ⟨part, node, inner, hmem, hinner, hrepeats⟩
    · refine Document.reads_record_repeated hroot ?_ _ _ []
      exact hrepeats
    · refine Document.reads_mapping_of_fields? hroot (fun entries hentries => ?_) _ []
      cases part with
      | runtime =>
        exact Document.reads_fieldsFrom_of_mem hentries rfl hmem
          (reads_sectionField_repeated .runtime rfl hinner hrepeats _ _ _) [] [] blank
      | proxy =>
        exact Document.reads_fieldsFrom_of_mem hentries rfl hmem
          (reads_sectionField_repeated .proxy rfl hinner hrepeats _ _ _) [] [] blank
  exact Document.exists_decode_eq_error hread

end Layer

end RuntimeLauncher
