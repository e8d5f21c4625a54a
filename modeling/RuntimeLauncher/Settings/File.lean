import RuntimeLauncher.Settings.Layer
import RuntimeLauncher.Yaml.Record

/-!
# Settings files

A settings file is a record whose fields are the settings of a layer, with one section for the
runtime and one for the proxy.

## Main Definitions

* `SettingField` — fields that are texts, lists of texts, hives or sections
* `RuntimeLayer.fields`, `ProxyLayer.fields`, `Layer.fields` — the known fields
* `Layer.decode` — reads the text of a settings file

## Design Notes

A plain null leaves a setting open. Where a text is wanted, any scalar is taken as it is written, so
that a version like `1.50` keeps its last digit.
-/

namespace RuntimeLauncher

open Yaml (Document RecordField Node Decode)

namespace SettingField

/-- An open or set text. -/
def decodeText (document : Document) (expected : String) (path : Yaml.Path) (node : Node) :
    Decode (Option String) :=
  document.optional node (document.text expected path)

/-- An open or set list of texts. -/
def decodeTexts (document : Document) (path : Yaml.Path) (node : Node) :
    Decode (Option (List String)) :=
  document.optional node fun target => document.sequence path target (document.text "a string")

/-- An open or set hive. -/
def decodeHive (document : Document) (path : Yaml.Path) (node : Node) : Decode (Option Hive) :=
  document.optional node (Document.choice document Hive.byName path)

/-- A field that is a text. -/
def textField {α : Type} (document : Document) (name : String) (set : α → Option String → α) :
    RecordField α :=
  ⟨name, fun path node layer => do pure (set layer (← decodeText document "a string" path node))⟩

/-- A field that is a list of texts. -/
def textsField {α : Type} (document : Document) (name : String)
    (set : α → Option (List String) → α) : RecordField α :=
  ⟨name, fun path node layer => do pure (set layer (← decodeTexts document path node))⟩

/-- A field that is a hive. -/
def hiveField {α : Type} (document : Document) (name : String) (set : α → Option Hive → α) :
    RecordField α :=
  ⟨name, fun path node layer => do pure (set layer (← decodeHive document path node))⟩

/-- A field that is a section. -/
def sectionField {α β : Type} (document : Document) (name expected : String) (blank : β)
    (fields : List (RecordField β)) (set : α → Option β → α) : RecordField α :=
  ⟨name, fun path node layer => do
    let part ← document.optional node (document.record expected blank fields path)
    pure (set layer part)⟩

end SettingField

open SettingField

/-- The fields of the runtime's section. -/
def RuntimeLayer.fields (document : Document) : List (RecordField RuntimeLayer) :=
  [ hiveField document "hive" fun layer hive => { layer with hive },
    textField document "key" fun layer key => { layer with key },
    textField document "version_value" fun layer versionValue => { layer with versionValue },
    textField document "home_value" fun layer homeValue => { layer with homeValue },
    textField document "binary_suffix" fun layer binarySuffix => { layer with binarySuffix } ]

/-- The fields of the proxy's section. -/
def ProxyLayer.fields (document : Document) : List (RecordField ProxyLayer) :=
  [ hiveField document "hive" fun layer hive => { layer with hive },
    textField document "key" fun layer key => { layer with key },
    textField document "value" fun layer value => { layer with value },
    textField document "property" fun layer property => { layer with property } ]

namespace Layer

/-- The fields of a settings file. -/
def fields (document : Document) : List (RecordField Layer) :=
  [ sectionField document "runtime" "struct RuntimeConfig" .blank (RuntimeLayer.fields document)
      fun layer runtime => { layer with runtime },
    sectionField document "proxy" "struct ProxyConfig" .blank (ProxyLayer.fields document)
      fun layer proxy => { layer with proxy },
    textsField document "env_overrides" fun layer overrideKeys => { layer with overrideKeys },
    textsField document "markers" fun layer markers => { layer with markers },
    textsField document "classpath_dirs" fun layer classpathDirs => { layer with classpathDirs },
    textField document "archive_extension" fun layer archiveExtension =>
      { layer with archiveExtension },
    textField document "main_class" fun layer mainClass => { layer with mainClass },
    ⟨"store_file", fun path node layer => do
      pure { layer with storeFile := ← decodeText document "path string" path node }⟩ ]

/-- Decodes a whole document as a layer. -/
def ofDocument (document : Document) : Except Yaml.Error Layer :=
  document.decode (document.record "struct LauncherConfig" blank (fields document) [])

/-- Reads the text of a settings file. -/
def decode (text : String) : Except Yaml.Error Layer := ofDocument (Document.ofText text)

end Layer

end RuntimeLauncher
