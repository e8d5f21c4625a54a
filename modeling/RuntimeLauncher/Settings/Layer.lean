import RuntimeLauncher.Settings.Basic

/-!
# Layers of settings

A settings file sets some settings and leaves others open. Files are laid over one another, and what
stays open takes its default.

## Main Definitions

* `RuntimeLayer`, `ProxyLayer`, `Layer` — settings of which any may be open
* `Layer.onto` — one layer on top of another
* `Layer.stack` — a row of layers, the first one lowest
* `Layer.resolve` — complete settings

## Design Notes

Layers combine setting by setting: the upper layer wins where it sets something. A list counts as
one setting, and an empty list is set. A section that is present but sets nothing is told apart from
one that is absent, although both resolve alike.
-/

namespace RuntimeLauncher

/-- The settings of the runtime, each open or set. -/
structure RuntimeLayer where
  hive : Option Hive
  key : Option String
  versionValue : Option String
  homeValue : Option String
  binarySuffix : Option String
deriving DecidableEq

/-- The settings of the proxy, each open or set. -/
structure ProxyLayer where
  hive : Option Hive
  key : Option String
  value : Option String
  property : Option String
deriving DecidableEq

/-- All settings, each open or set. -/
structure Layer where
  runtime : Option RuntimeLayer
  proxy : Option ProxyLayer
  overrideKeys : Option (List String)
  markers : Option (List String)
  classpathDirs : Option (List String)
  archiveExtension : Option String
  mainClass : Option String
  storeFile : Option String
deriving DecidableEq

namespace RuntimeLayer

/-- Nothing is set. -/
def blank : RuntimeLayer := ⟨none, none, none, none, none⟩

/-- One layer on top of another. -/
def onto (upper lower : RuntimeLayer) : RuntimeLayer where
  hive := upper.hive.or lower.hive
  key := upper.key.or lower.key
  versionValue := upper.versionValue.or lower.versionValue
  homeValue := upper.homeValue.or lower.homeValue
  binarySuffix := upper.binarySuffix.or lower.binarySuffix

/-- Complete settings. -/
def resolve (layer : RuntimeLayer) : RuntimeSettings :=
  let default := RuntimeSettings.default
  { hive := layer.hive.getD default.hive
    key := layer.key.getD default.key
    versionValue := layer.versionValue.getD default.versionValue
    homeValue := layer.homeValue.getD default.homeValue
    binarySuffix := layer.binarySuffix.getD default.binarySuffix }

end RuntimeLayer

namespace ProxyLayer

/-- Nothing is set. -/
def blank : ProxyLayer := ⟨none, none, none, none⟩

/-- One layer on top of another. -/
def onto (upper lower : ProxyLayer) : ProxyLayer where
  hive := upper.hive.or lower.hive
  key := upper.key.or lower.key
  value := upper.value.or lower.value
  property := upper.property.or lower.property

/-- Complete settings. -/
def resolve (layer : ProxyLayer) : ProxySettings :=
  let default := ProxySettings.default
  { hive := layer.hive.getD default.hive
    key := layer.key.getD default.key
    value := layer.value.getD default.value
    property := layer.property.getD default.property }

end ProxyLayer

namespace Layer

/-- Nothing is set, and no section is present. -/
def blank : Layer := ⟨none, none, none, none, none, none, none, none⟩

/-- A section on top of a section that may be absent. A section once present stays present. -/
def sectionOnto {α : Type} (blank : α) (onto : α → α → α) (upper lower : Option α) : Option α :=
  match upper with
  | none => lower
  | some part => some (onto part (lower.getD blank))

/-- One layer on top of another. -/
def onto (upper lower : Layer) : Layer where
  runtime := sectionOnto .blank .onto upper.runtime lower.runtime
  proxy := sectionOnto .blank .onto upper.proxy lower.proxy
  overrideKeys := upper.overrideKeys.or lower.overrideKeys
  markers := upper.markers.or lower.markers
  classpathDirs := upper.classpathDirs.or lower.classpathDirs
  archiveExtension := upper.archiveExtension.or lower.archiveExtension
  mainClass := upper.mainClass.or lower.mainClass
  storeFile := upper.storeFile.or lower.storeFile

/-- A row of layers, each on top of those before it. -/
def stack (layers : List Layer) : Layer :=
  layers.foldl (fun lower upper => upper.onto lower) blank

/-- Complete settings. -/
def resolve (layer : Layer) : Settings :=
  let default := Settings.default
  { runtime := (layer.runtime.getD .blank).resolve
    proxy := (layer.proxy.getD .blank).resolve
    overrideKeys := layer.overrideKeys.getD default.overrideKeys
    markers := layer.markers.getD default.markers
    classpathDirs := layer.classpathDirs.getD default.classpathDirs
    archiveExtension := layer.archiveExtension.getD default.archiveExtension
    mainClass := layer.mainClass.getD default.mainClass
    storeFile := layer.storeFile
    pathStyle := default.pathStyle }

end Layer

end RuntimeLauncher
