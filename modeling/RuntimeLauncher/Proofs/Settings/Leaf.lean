import RuntimeLauncher.Settings.Layer

/-!
# Settings one by one

A layer has sections and lists, but what a user sets are single settings. This module takes layers
apart into them. A list counts as one setting.

## Main Definitions

* `Leaf` — a single setting, with the type of its values
* `Leaf.inLayer`, `Leaf.inSettings` — its value in a layer and in complete settings

## Main Statements

* `Leaf.inLayer_onto` — of two layers, the upper one decides each setting that it sets
* `Leaf.inSettings_resolve` — what stays open takes its default
* `Settings.eq_of_inSettings` — complete settings are no more than their single settings

## Design Notes

There is no default store file, so `inSettings` may find nothing. For all other settings it finds
a value in any complete settings.
-/

namespace RuntimeLauncher

/-- A single setting, with the type of its values. -/
inductive Leaf : Type → Type where
  | runtimeHive : Leaf Hive
  | runtimeKey : Leaf String
  | runtimeVersionValue : Leaf String
  | runtimeHomeValue : Leaf String
  | runtimeBinarySuffix : Leaf String
  | proxyHive : Leaf Hive
  | proxyKey : Leaf String
  | proxyValue : Leaf String
  | proxyProperty : Leaf String
  | overrideKeys : Leaf (List String)
  | markers : Leaf (List String)
  | classpathDirs : Leaf (List String)
  | archiveExtension : Leaf String
  | mainClass : Leaf String
  | storeFile : Leaf String

namespace Leaf

variable {α : Type}

/-- The value of a setting in a layer, if the layer sets it. -/
def inLayer : Leaf α → Layer → Option α
  | runtimeHive, layer => layer.runtime.bind RuntimeLayer.hive
  | runtimeKey, layer => layer.runtime.bind RuntimeLayer.key
  | runtimeVersionValue, layer => layer.runtime.bind RuntimeLayer.versionValue
  | runtimeHomeValue, layer => layer.runtime.bind RuntimeLayer.homeValue
  | runtimeBinarySuffix, layer => layer.runtime.bind RuntimeLayer.binarySuffix
  | proxyHive, layer => layer.proxy.bind ProxyLayer.hive
  | proxyKey, layer => layer.proxy.bind ProxyLayer.key
  | proxyValue, layer => layer.proxy.bind ProxyLayer.value
  | proxyProperty, layer => layer.proxy.bind ProxyLayer.property
  | overrideKeys, layer => layer.overrideKeys
  | markers, layer => layer.markers
  | classpathDirs, layer => layer.classpathDirs
  | archiveExtension, layer => layer.archiveExtension
  | mainClass, layer => layer.mainClass
  | storeFile, layer => layer.storeFile

/-- The value of a setting in complete settings. -/
def inSettings : Leaf α → Settings → Option α
  | runtimeHive, settings => some settings.runtime.hive
  | runtimeKey, settings => some settings.runtime.key
  | runtimeVersionValue, settings => some settings.runtime.versionValue
  | runtimeHomeValue, settings => some settings.runtime.homeValue
  | runtimeBinarySuffix, settings => some settings.runtime.binarySuffix
  | proxyHive, settings => some settings.proxy.hive
  | proxyKey, settings => some settings.proxy.key
  | proxyValue, settings => some settings.proxy.value
  | proxyProperty, settings => some settings.proxy.property
  | overrideKeys, settings => some settings.overrideKeys
  | markers, settings => some settings.markers
  | classpathDirs, settings => some settings.classpathDirs
  | archiveExtension, settings => some settings.archiveExtension
  | mainClass, settings => some settings.mainClass
  | storeFile, settings => settings.storeFile

@[simp]
theorem inLayer_blank (leaf : Leaf α) : leaf.inLayer .blank = none := by
  cases leaf <;> rfl

/-- Laying a section over another one takes its settings apart: the upper one decides those that it
sets. A section that was absent counts as one that sets nothing. -/
theorem bind_sectionOnto {β : Type} {blank : β} {onto : β → β → β} {get : β → Option α}
    (hblank : get blank = none)
    (honto : ∀ upper lower, get (onto upper lower) = (get upper).or (get lower))
    (upper lower : Option β) :
    (Layer.sectionOnto blank onto upper lower).bind get =
      (upper.bind get).or (lower.bind get) := by
  cases upper with
  | none => rfl
  | some part =>
    cases lower with
    | none => simp [Layer.sectionOnto, honto, hblank]
    | some below => simp [Layer.sectionOnto, honto]

/-- **Of two layers, the upper one decides each setting that it sets.** -/
theorem inLayer_onto (leaf : Leaf α) (upper lower : Layer) :
    leaf.inLayer (upper.onto lower) = (leaf.inLayer upper).or (leaf.inLayer lower) := by
  cases leaf with
  | runtimeHive | runtimeKey | runtimeVersionValue | runtimeHomeValue | runtimeBinarySuffix =>
    exact bind_sectionOnto rfl (fun _ _ => rfl) upper.runtime lower.runtime
  | proxyHive | proxyKey | proxyValue | proxyProperty =>
    exact bind_sectionOnto rfl (fun _ _ => rfl) upper.proxy lower.proxy
  | overrideKeys | markers | classpathDirs | archiveExtension | mainClass | storeFile => rfl

theorem some_getD {β : Type} (found : Option β) (default : β) :
    some (found.getD default) = found.or (some default) := by
  cases found <;> rfl

/-- A setting of a section that may be absent. -/
theorem some_getD_section {β : Type} {blank : β} {get : β → Option α}
    (hblank : get blank = none) (part : Option β) (default : α) :
    some ((get (part.getD blank)).getD default) = (part.bind get).or (some default) := by
  cases part with
  | none => simp [hblank]
  | some part => exact some_getD (get part) default

/-- **What stays open takes its default.** -/
theorem inSettings_resolve (leaf : Leaf α) (layer : Layer) :
    leaf.inSettings layer.resolve = (leaf.inLayer layer).or (leaf.inSettings .default) := by
  cases leaf with
  | runtimeHive | runtimeKey | runtimeVersionValue | runtimeHomeValue | runtimeBinarySuffix =>
    exact some_getD_section rfl layer.runtime _
  | proxyHive | proxyKey | proxyValue | proxyProperty =>
    exact some_getD_section rfl layer.proxy _
  | overrideKeys | markers | classpathDirs | archiveExtension | mainClass => exact some_getD _ _
  | storeFile => exact (Option.or_none).symm

end Leaf

/-- **Complete settings are no more than their single settings,** apart from the style of paths. -/
theorem Settings.eq_of_inSettings {a b : Settings} (hstyle : a.pathStyle = b.pathStyle)
    (h : ∀ {α : Type} (leaf : Leaf α), leaf.inSettings a = leaf.inSettings b) : a = b := by
  obtain ⟨⟨_, _, _, _, _⟩, ⟨_, _, _, _⟩, _, _, _, _, _, _, _⟩ := a
  obtain ⟨⟨_, _, _, _, _⟩, ⟨_, _, _, _⟩, _, _, _, _, _, _, _⟩ := b
  cases hstyle
  cases h .runtimeHive
  cases h .runtimeKey
  cases h .runtimeVersionValue
  cases h .runtimeHomeValue
  cases h .runtimeBinarySuffix
  cases h .proxyHive
  cases h .proxyKey
  cases h .proxyValue
  cases h .proxyProperty
  cases h .overrideKeys
  cases h .markers
  cases h .classpathDirs
  cases h .archiveExtension
  cases h .mainClass
  cases h .storeFile
  rfl

end RuntimeLauncher
