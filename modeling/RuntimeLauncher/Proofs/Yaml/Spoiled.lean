import RuntimeLauncher.Proofs.Yaml.Reading

/-!
# Nodes that spoil a value

A value of any shape can hold nearly every node. This module lists what it cannot hold, and shows
that nothing else keeps a node from being read.

## Main Definitions

* `Document.Spoils` — something in a node keeps it from being read

## Main Statements

* `Document.value?_eq_none_iff_spoils` — the nodes without a value

## Design Notes

An integer spoils a value if it has more than 64 bits, though it stands where anything may stand. So
does a local tag, even on a text.
-/

namespace RuntimeLauncher.Yaml

/-- The tag of a node. -/
def Node.tag : Node → Option Tag
  | .scalar _ tag _ _ => tag
  | .seq _ tag _ _ => tag
  | .map _ tag _ _ => tag
  | _ => none

/-- The text does not break off before the end of the node. -/
def Node.isWhole : Node → Bool
  | .seq _ _ _ broken => broken.isNone
  | .map _ _ _ broken => broken.isNone
  | .cut _ => false
  | _ => true

namespace Document

/-- The node, or one inside it, keeps the whole from being read as a value with at most `depth`
collections nested. -/
inductive Spoils (document : Document) : Nat → Node → Prop
  | localTag {depth : Nat} {node : Node} (h : (localTag? node.tag).isSome) :
    Spoils document depth node
  /-- The text is not what a tag of the standard says. -/
  | refusedTag {depth : Nat} {mark : Mark} {tag : Option Tag} {text : String}
    {style : ScalarStyle} {cause : Cause} (h : sightOf tag text style = .error cause) :
    Spoils document depth (.scalar mark tag text style)
  /-- The text is an integer of more than 64 bits. -/
  | wideInteger {depth : Nat} {mark : Mark} {tag : Option Tag} {text : String}
    {style : ScalarStyle} {n : Int} {signed : Bool}
    (h : sightOf tag text style = .ok (.wideInteger n signed)) :
    Spoils document depth (.scalar mark tag text style)
  | seqTooDeep {mark : Mark} {tag : Option Tag} {parts : List Node} {broken : Option Error} :
    Spoils document 0 (.seq mark tag parts broken)
  | mapTooDeep {mark : Mark} {tag : Option Tag} {entries : List (Node × Node)}
    {broken : Option Error} : Spoils document 0 (.map mark tag entries broken)
  | item {depth : Nat} {mark : Mark} {tag : Option Tag} {parts : List Node}
    {broken : Option Error} {part : Node} (hmem : part ∈ parts)
    (h : Spoils document depth part) : Spoils document (depth + 1) (.seq mark tag parts broken)
  | key {depth : Nat} {mark : Mark} {tag : Option Tag} {entries : List (Node × Node)}
    {broken : Option Error} {entry : Node × Node} (hmem : entry ∈ entries)
    (h : Spoils document depth entry.1) :
    Spoils document (depth + 1) (.map mark tag entries broken)
  | value {depth : Nat} {mark : Mark} {tag : Option Tag} {entries : List (Node × Node)}
    {broken : Option Error} {entry : Node × Node} (hmem : entry ∈ entries)
    (h : Spoils document depth entry.2) :
    Spoils document (depth + 1) (.map mark tag entries broken)
  | behind {depth : Nat} {node target : Node} (hnode : document.behind? node = some target)
    (h : Spoils document depth target) : Spoils document depth node
  /-- An alias stands for no node, or for another alias. -/
  | unbound {depth : Nat} {node : Node}
    (h : ∀ target, document.behind? node = some target → target.aliases ≠ 0) :
    Spoils document depth node
  | broken {depth : Nat} {node : Node} (h : node.isWhole = false) : Spoils document depth node

variable {document : Document} {depth : Nat} {node : Node}

/-- The reading of parts inside a node where `depth` collections may be nested. -/
def part? (document : Document) : Nat → Option (Node → Option Value)
  | 0 => none
  | depth + 1 => some (document.value? depth)

theorem value?_eq_bind (depth : Nat) (node : Node) :
    document.value? depth node =
      (document.behind? node).bind (Node.value? (document.part? depth)) := by
  cases depth <;> rfl

theorem behind?_of_aliases (h : node.aliases = 0) : document.behind? node = some node := by
  cases node with
  | «alias» => cases h
  | scalar | seq | map | void | cut => rfl

theorem value?_of_aliases (h : node.aliases = 0) :
    document.value? depth node = Node.value? (document.part? depth) node := by
  rw [value?_eq_bind, behind?_of_aliases h, Option.bind_some]

theorem value?_map_eq_none {mark : Mark} {tag : Option Tag} {entries : List (Node × Node)}
    {broken : Option Error} {entry : Node × Node} (hmem : entry ∈ entries)
    (h : document.value? depth entry.1 = none ∨ document.value? depth entry.2 = none) :
    document.value? (depth + 1) (.map mark tag entries broken) = none := by
  have hentries : entries.mapM (pair? (document.value? depth) (document.value? depth)) = none :=
    mapM_eq_none_iff.2 ⟨entry, hmem, pair?_eq_none_iff.2 h⟩
  rw [value?_of_aliases rfl]
  simp [Node.value?, part?, hentries]

/-- A node that spoils what it stands in has no value. -/
theorem Spoils.value?_eq_none (h : document.Spoils depth node) :
    document.value? depth node = none := by
  induction h with
  | @localTag _ node h =>
    cases node with
    | scalar | seq | map =>
      rw [value?_of_aliases rfl]
      exact if_pos h
    | «alias» | void | cut => cases h
  | refusedTag h =>
    rw [value?_of_aliases rfl, Node.value?, scalarValue?, h]
    exact ite_self _
  | wideInteger h =>
    rw [value?_of_aliases rfl, Node.value?, scalarValue?, h]
    exact ite_self _
  | seqTooDeep | mapTooDeep =>
    rw [value?_of_aliases rfl, Node.value?]
    exact ite_self _
  | item hmem _ ih =>
    have hparts := mapM_eq_none_iff.2 ⟨_, hmem, ih⟩
    rw [value?_of_aliases rfl]
    simp [Node.value?, part?, hparts]
  | key hmem _ ih => exact value?_map_eq_none hmem (.inl ih)
  | value hmem _ ih => exact value?_map_eq_none hmem (.inr ih)
  | @behind _ node target hnode _ ih =>
    rw [value?_eq_bind, hnode, Option.bind_some]
    by_cases haliases : target.aliases = 0
    · rwa [value?_of_aliases haliases] at ih
    · cases target with
      | «alias» => rfl
      | scalar | seq | map | void | cut => cases haliases rfl
  | @unbound _ node h =>
    rw [value?_eq_bind]
    cases htarget : document.behind? node with
    | none => rfl
    | some target =>
      cases target with
      | «alias» => rfl
      | scalar | seq | map | void | cut => cases h _ htarget rfl
  | @broken _ node h =>
    cases node with
    | seq mark tag parts cut | map mark tag entries cut =>
      cases cut with
      | none => cases h
      | some e =>
        rw [value?_of_aliases rfl]
        simp [Node.value?]
    | cut =>
      rw [value?_of_aliases rfl]
      rfl
    | scalar | «alias» | void => cases h

/-- A node that has no value is spoiled by something, if that holds of its parts. -/
theorem spoils_of_node (h : Node.value? (document.part? depth) node = none)
    (haliases : node.aliases = 0)
    (ih : ∀ depth', depth = depth' + 1 → ∀ part, document.value? depth' part = none →
      document.Spoils depth' part) : document.Spoils depth node := by
  by_cases htag : (Yaml.localTag? node.tag).isSome
  · exact .localTag htag
  by_cases hwhole : node.isWhole = false
  · exact .broken hwhole
  cases node with
  | scalar mark tag text style =>
    have hscalar : (sightOf tag text style).toOption.bind Sight.value? = none :=
      (if_neg htag).symm.trans h
    cases hsight : sightOf tag text style with
    | error cause => exact .refusedTag hsight
    | ok sight =>
      rw [hsight] at hscalar
      cases sight with
      | wideInteger n signed => exact .wideInteger hsight
      | nothing | bool | integer | float | string | sequence | mapping => cases hscalar
  | seq mark tag parts cut =>
    cases depth with
    | zero => exact .seqTooDeep
    | succ depth =>
      cases cut with
      | some e => exact absurd rfl hwhole
      | none =>
        have hparts : parts.mapM (document.value? depth) = none :=
          Option.map_eq_none_iff.1 ((if_neg htag).symm.trans h)
        obtain ⟨part, hmem, hpart⟩ := mapM_eq_none_iff.1 hparts
        exact .item hmem (ih depth rfl part hpart)
  | map mark tag entries cut =>
    cases depth with
    | zero => exact .mapTooDeep
    | succ depth =>
      cases cut with
      | some e => exact absurd rfl hwhole
      | none =>
        have hentries :
            entries.mapM (pair? (document.value? depth) (document.value? depth)) = none :=
          Option.map_eq_none_iff.1 ((if_neg htag).symm.trans h)
        obtain ⟨entry, hmem, hentry⟩ := mapM_eq_none_iff.1 hentries
        rcases pair?_eq_none_iff.1 hentry with hkey | hvalue
        · exact .key hmem (ih depth rfl _ hkey)
        · exact .value hmem (ih depth rfl _ hvalue)
  | void => cases h
  | «alias» => cases haliases
  | cut => exact absurd rfl hwhole

/-- **The nodes without a value** are those that something in them spoils. -/
theorem value?_eq_none_iff_spoils :
    document.value? depth node = none ↔ document.Spoils depth node := by
  refine ⟨fun h => ?_, Spoils.value?_eq_none⟩
  induction depth using Nat.strongRecOn generalizing node with
  | ind depth ih =>
    rw [value?_eq_bind] at h
    cases htarget : document.behind? node with
    | none => exact .unbound fun target h => by rw [htarget] at h; cases h
    | some target =>
      by_cases haliases : target.aliases = 0
      · rw [htarget, Option.bind_some] at h
        refine .behind htarget (spoils_of_node h haliases fun depth' hdepth part hpart => ?_)
        exact ih depth' (by omega) hpart
      · refine .unbound fun other hother => ?_
        rw [htarget] at hother
        cases hother
        exact haliases

end Document

end RuntimeLauncher.Yaml
