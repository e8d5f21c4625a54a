import Mathlib.Algebra.GroupWithZero.Nat
import Mathlib.Data.List.Forall2
import RuntimeLauncher.Yaml.Record

/-!
# What a decoder reads

A decoder keeps places for its errors and counts the aliases that it follows. What it reads depends
on neither of them: it reads one certain result, or it never succeeds. The aliases only add up, and
they matter if there are too many of them.

## Main Definitions

* `Decode.Reads` — what a decoder reads, and how many aliases it follows
* `Document.behind?`, `Document.text?`, `Document.entries?` — a node as itself, as a text and as a
  mapping
* `Document.textMap?` — a mapping with texts as keys
* `Document.value?` — a node as a value of any shape

## Main Statements

* `Decode.Reads.bind`, `Decode.Reads.placed` — reading one thing after another
* `Document.reads_text`, `Document.reads_mapping`, `Document.reads_entries`,
  `Document.reads_items` — what the decoders for one node read
* `Document.reads_value` — what is read without a schema
* `Document.decode_eq_ok_iff` — which documents are decoded, and to what

## Design Notes

The readings say nothing of why a node cannot be read. Where there is no reading, the decoder fails
whatever was followed before it.
-/

namespace RuntimeLauncher.Yaml

variable {α β : Type} {limit n m : Nat} {result : Option α}

/-- Taking the results of all elements succeeds if each of them has one. -/
theorem mapM_eq_some_iff {f : α → Option β} {l : List α} {found : List β} :
    l.mapM f = some found ↔ l.Forall₂ (fun a b => f a = some b) found := by
  induction l generalizing found with
  | nil => simp [eq_comm]
  | cons a rest ih =>
    simp only [List.mapM_cons, Option.bind_eq_bind, Option.bind_eq_some_iff, Option.pure_def,
      Option.some.injEq, List.forall₂_cons_left_iff]
    constructor
    · rintro ⟨b, hb, others, hothers, rfl⟩
      exact ⟨b, others, hb, ih.1 hothers, rfl⟩
    · rintro ⟨b, others, hb, hothers, rfl⟩
      exact ⟨b, hb, others, ih.2 hothers, rfl⟩

theorem mapM_cons_eq_bind (f : α → Option β) (a : α) (l : List α) :
    (a :: l).mapM f = (f a).bind fun b => (l.mapM f).map (b :: ·) := by
  simp only [List.mapM_cons, Option.bind_eq_bind, Option.pure_def, Option.map_eq_bind]
  rfl

theorem mapM_eq_none_iff {f : α → Option β} {l : List α} :
    l.mapM f = none ↔ ∃ a ∈ l, f a = none := by
  induction l with
  | nil => simp
  | cons a rest ih =>
    simp only [List.mapM_cons, Option.bind_eq_bind, List.exists_mem_cons_iff, ← ih]
    cases f a <;> cases rest.mapM f <;> simp

namespace Decode

variable {x : Decode α} {f : α → Decode β} {g : α → Option β}

/-- Whatever was followed before, the decoder succeeds only with this result, and does so if the
aliases that it follows stay within the limit. -/
def Reads (limit : Nat) (x : Decode α) (result : Option α) (aliases : Nat) : Prop :=
  ∀ count a count', x count = .ok (a, count') ↔
    result = some a ∧ count' = count + aliases ∧ (aliases = 0 ∨ count' ≤ limit)

theorem bind_eq_ok_iff {count : Nat} {found : β × Nat} :
    (x >>= f) count = .ok found ↔ ∃ a next, x count = .ok (a, next) ∧ f a next = .ok found := by
  change (x count >>= fun first => f first.1 first.2) = .ok found ↔ _
  cases x count with
  | error e => exact ⟨nofun, fun ⟨_, _, h, _⟩ => nomatch h⟩
  | ok first =>
    refine ⟨fun h => ⟨first.1, first.2, rfl, h⟩, ?_⟩
    rintro ⟨_, _, ⟨⟩, h⟩
    exact h

/-- A decoder that always fails reads nothing. -/
theorem reads_none (h : ∀ count, ∃ e, x count = .error e) : Reads limit x none n := by
  intro count a count'
  obtain ⟨e, he⟩ := h count
  rw [he]
  exact ⟨nofun, nofun⟩

theorem reads_throw (e : Error) : Reads limit (throw e : Decode α) none n :=
  reads_none fun _ => ⟨e, rfl⟩

theorem reads_refuse (cause : Cause) : Reads limit (refuse cause : Decode α) none n :=
  reads_throw _

theorem reads_pure (a : α) : Reads limit (pure a) (some a) 0 := by
  intro count b count'
  change Except.ok (a, count) = .ok (b, count') ↔ _
  rw [Except.ok.injEq, Prod.mk.injEq, Option.some.injEq]
  exact and_congr Iff.rfl ⟨fun h => ⟨h.symm, .inl rfl⟩, fun h => h.1.symm⟩

/-- **One after another,** decoders read one after another, and the aliases add up. -/
theorem Reads.bind (hx : Reads limit x result n)
    (hf : ∀ a, result = some a → Reads limit (f a) (g a) m) :
    Reads limit (x >>= f) (result.bind g) (n + m) := by
  intro count b count'
  rw [bind_eq_ok_iff]
  cases result with
  | none =>
    refine ⟨?_, nofun⟩
    rintro ⟨a, next, hfirst, -⟩
    exact nomatch ((hx _ _ _).1 hfirst).1
  | some a =>
    rw [Option.bind_some]
    constructor
    · rintro ⟨_, next, hfirst, hrest⟩
      obtain ⟨⟨⟩, rfl, hn⟩ := (hx _ _ _).1 hfirst
      obtain ⟨hb, rfl, hm⟩ := (hf a rfl _ _ _).1 hrest
      exact ⟨hb, by omega, by omega⟩
    · rintro ⟨hb, rfl, hlimit⟩
      refine ⟨a, count + n, (hx _ _ _).2 ⟨rfl, rfl, by omega⟩, ?_⟩
      exact (hf a rfl _ _ _).2 ⟨hb, by omega, by omega⟩

theorem Reads.map (hx : Reads limit x result n) (h : α → β) :
    Reads limit (do let a ← x; pure (h a)) (result.map h) n := by
  rw [Option.map_eq_bind, ← Nat.add_zero n]
  exact hx.bind fun a _ => reads_pure (h a)

/-- Telling the place of an error does not change what is read. -/
theorem Reads.placed (hx : Reads limit x result n) (mark : Mark) (path : Path) :
    Reads limit (placed mark path x) result n := by
  intro count a count'
  rw [← hx count a count', Decode.placed]
  cases x count with
  | error e => exact ⟨nofun, nofun⟩
  | ok found => rfl

/-- Where the text breaks off inside a collection, nothing is read. -/
theorem reads_cut (x : Decode α) (e : Error) (h : α → β) :
    Reads limit (do let a ← x; Decode.uncut (some e); pure (h a)) none n := by
  intro count b count'
  rw [bind_eq_ok_iff]
  refine ⟨?_, nofun⟩
  rintro ⟨a, next, -, hrest⟩
  cases hrest

theorem Reads.uncut (hx : Reads limit x result n) (cut : Option Error) (h : α → β) :
    Reads limit (do let a ← x; Decode.uncut cut; pure (h a))
      (if cut.isSome then none else result.map h) n := by
  cases cut with
  | none => exact hx.map h
  | some e => exact reads_cut x e h

end Decode

open Decode

/-! ### Nodes as texts and mappings -/

/-- How many aliases stand in the place of the node itself. -/
def Node.aliases : Node → Nat
  | .alias _ => 1
  | _ => 0

/-- The text of a scalar. -/
def Node.text? : Node → Option String
  | .scalar _ _ text _ => some text
  | _ => none

/-- The entries of a mapping, which can be left out. -/
def Node.entries? : Node → Option (List (Node × Node))
  | .map _ _ entries none => some entries
  | .void _ => some []
  | .scalar _ _ text style => if isMissing text style then some [] else none
  | _ => none

/-- An entry of a mapping, if its key and its value can be read. -/
def pair? (key? : Node → Option α) (value? : Node → Option β) (entry : Node × Node) :
    Option (α × β) := do
  pure (← key? entry.1, ← value? entry.2)

theorem pair?_eq_some_iff {key? : Node → Option α} {value? : Node → Option β}
    {entry : Node × Node} {found : α × β} :
    pair? key? value? entry = some found ↔
      key? entry.1 = some found.1 ∧ value? entry.2 = some found.2 := by
  simp only [pair?, Option.bind_eq_bind, Option.pure_def, Option.bind_eq_some_iff,
    Option.some.injEq]
  constructor
  · rintro ⟨_, hkey, _, hvalue, rfl⟩
    exact ⟨hkey, hvalue⟩
  · rintro ⟨hkey, hvalue⟩
    exact ⟨_, hkey, _, hvalue, rfl⟩

theorem pair?_eq_none_iff {key? : Node → Option α} {value? : Node → Option β}
    {entry : Node × Node} :
    pair? key? value? entry = none ↔ key? entry.1 = none ∨ value? entry.2 = none := by
  simp only [pair?]
  cases key? entry.1 <;> cases value? entry.2 <;> simp

namespace Document

variable (document : Document)

/-- The node that stands in a place, or that an alias there stands for. -/
def behind? : Node → Option Node
  | .alias number => document.anchors.lookup number
  | node => some node

/-- A node as a text. -/
def text? (node : Node) : Option String := (document.behind? node).bind Node.text?

/-- A node as a mapping. -/
def entries? (node : Node) : Option (List (Node × Node)) :=
  (document.behind? node).bind Node.entries?

/-- A node as a mapping with texts as keys. -/
def textMap? (value? : Node → Option α) (node : Node) : Option (List (String × α)) :=
  (document.entries? node).bind fun entries => entries.mapM (pair? document.text? value?)

/-- How many aliases are followed in a mapping with texts as keys. -/
def textMapAliases (valueAliases : Node → Nat) (node : Node) : Nat :=
  node.aliases + (document.entries? node).elim 0 fun entries =>
    (entries.map fun entry => entry.1.aliases + valueAliases entry.2).sum

variable {document}

theorem follow_alias (number count : Nat) :
    document.follow (.alias number) count =
      if document.aliasLimit < count + 1 then .error .tooManyAliases
      else
        match document.anchors.lookup number with
        | some node => .ok (node, count + 1)
        | none => .error .endOfText := by
  simp only [follow, bind, StateT.bind, get, getThe, MonadStateOf.get, StateT.get, pure,
    Except.pure, Except.bind]
  split
  · rfl
  · cases document.anchors.lookup number <;> rfl

theorem reads_follow (node : Node) :
    Reads document.aliasLimit (document.follow node) (document.behind? node) node.aliases := by
  cases node with
  | scalar | seq | map | void | cut => exact reads_pure _
  | «alias» number =>
    intro count a count'
    rw [follow_alias, behind?, Node.aliases]
    cases document.anchors.lookup number with
    | none => split <;> simp
    | some node =>
      split
      · rename_i hlimit
        simp
        omega
      · rename_i hlimit
        simp
        omega

theorem reads_text (expected : String) (path : Path) (node : Node) :
    Reads document.aliasLimit (document.text expected path node) (document.text? node)
      node.aliases := by
  rw [← Nat.add_zero node.aliases, text]
  refine (reads_follow node).bind fun target _ => ?_
  cases target with
  | scalar => exact reads_pure _
  | seq | map | «alias» | void | cut => exact (reads_throw _).placed _ _

/-- **A mapping is read by reading its entries.** -/
theorem reads_mapping {decoder : List (Node × Node) → Decode α}
    {read : List (Node × Node) → Option α} {cost : List (Node × Node) → Nat} {node : Node}
    (h : ∀ entries, document.entries? node = some entries →
      Reads document.aliasLimit (decoder entries) (read entries) (cost entries))
    (expected : String) (path : Path) :
    Reads document.aliasLimit (document.mapping expected path node decoder)
      ((document.entries? node).bind read)
      (node.aliases + (document.entries? node).elim 0 cost) := by
  rw [mapping]
  simp only [entries?] at h ⊢
  rw [Option.bind_assoc]
  refine (reads_follow node).bind fun target htarget => ?_
  rw [htarget, Option.bind_some] at h ⊢
  cases target with
  | map mark tag entries cut =>
    cases cut with
    | none =>
      have hread := ((h entries rfl).uncut none id).placed mark path
      rwa [Option.map_id] at hread
    | some e => exact (reads_cut (decoder entries) e id).placed mark path
  | void mark => exact (h [] rfl).placed mark path
  | scalar mark tag text style =>
    simp only [Node.entries?] at h ⊢
    split
    · rename_i hmissing
      exact (h [] (if_pos hmissing)).placed mark path
    · exact (reads_throw _).placed mark path
  | seq | «alias» | cut => exact (reads_throw _).placed _ _

/-- **Parts are read one after another.** -/
theorem reads_items {decoder : PathStep → Node → Decode α} {read : Node → Option α}
    {cost : Node → Nat} (h : ∀ step node, Reads limit (decoder step node) (read node) (cost node))
    (i : Nat) (nodes : List Node) :
    Reads limit (items decoder i nodes) (nodes.mapM read) (nodes.map cost).sum := by
  induction nodes generalizing i with
  | nil => exact reads_pure []
  | cons node rest ih =>
    rw [items, mapM_cons_eq_bind, List.map_cons, List.sum_cons]
    exact (h _ node).bind fun first _ => (ih (i + 1)).map (first :: ·)

/-- **Entries are read one after another,** each key before its value. -/
theorem reads_entries {key : Node → Decode α} {value : PathStep → Node → Decode β}
    {readKey : Node → Option α} {readValue : Node → Option β} {keyCost valueCost : Node → Nat}
    (hkey : ∀ node, Reads limit (key node) (readKey node) (keyCost node))
    (hvalue : ∀ step node, Reads limit (value step node) (readValue node) (valueCost node))
    (nodes : List (Node × Node)) :
    Reads limit (entries key value nodes)
      (nodes.mapM (pair? readKey readValue))
      (nodes.map fun entry => keyCost entry.1 + valueCost entry.2).sum := by
  induction nodes with
  | nil => exact reads_pure []
  | cons entry rest ih =>
    rw [entries, mapM_cons_eq_bind, List.map_cons, List.sum_cons, Nat.add_assoc]
    simp only [pair?, Option.bind_eq_bind, Option.bind_assoc, Option.pure_def, Option.bind_some]
    exact (hkey entry.1).bind fun a _ =>
      (hvalue (.ofKey entry.1) entry.2).bind fun b _ => ih.map ((a, b) :: ·)

/-- **Mappings with texts as keys** are read entry by entry. -/
theorem reads_textMap {value : PathStep → Node → Decode α}
    {value? : Node → Option α} {cost : Node → Nat} (expected expectedKey : String)
    (h : ∀ path node, Reads document.aliasLimit (value path node) (value? node) (cost node))
    (path : Path) (node : Node) :
    Reads document.aliasLimit
      (document.mapping expected path node (entries (document.text expectedKey path) value))
      (document.textMap? value? node) (document.textMapAliases cost node) :=
  reads_mapping (fun nodes _ => reads_entries (reads_text expectedKey path) h nodes) expected path

end Document

/-! ### Values of any shape -/

/-- What was seen, as a value. An integer of more than 64 bits is none. -/
def Sight.value? : Sight → Option Value
  | .nothing => some .null
  | .bool b => some (.bool b)
  | .integer n => some (.int n)
  | .wideInteger _ _ => none
  | .float x => some (.float x)
  | .string s => some (.string s)
  | .sequence => some (.seq [])
  | .mapping => some (.map [])

/-- A scalar as a value. -/
def scalarValue? (tag : Option Tag) (text : String) (style : ScalarStyle) : Option Value :=
  if (localTag? tag).isSome then none
  else (sightOf tag text style).toOption.bind Sight.value?

/-- A node as a value, with a reading of its parts unless collections are nested too deeply. -/
def Node.value? (part : Option (Node → Option Value)) : Node → Option Value
  | .scalar _ tag text style => scalarValue? tag text style
  | .seq _ tag parts broken =>
    if (localTag? tag).isSome then none
    else part.bind fun part? => if broken.isSome then none else (parts.mapM part?).map .seq
  | .map _ tag entries broken =>
    if (localTag? tag).isSome then none
    else part.bind fun part? =>
      if broken.isSome then none else (entries.mapM (pair? part? part?)).map .map
  | .void _ => some .null
  | _ => none

/-- How many aliases are followed in the parts of a node. -/
def Node.partAliases (part : Node → Nat) : Node → Nat
  | .seq _ _ parts _ => (parts.map part).sum
  | .map _ _ entries _ => (entries.map fun entry => part entry.1 + part entry.2).sum
  | _ => 0

namespace Document

variable (document : Document)

/-- A node as a value with at most `depth` collections nested. -/
def value? : Nat → Node → Option Value
  | 0, node => (document.behind? node).bind (Node.value? none)
  | depth + 1, node => (document.behind? node).bind (Node.value? (some (value? depth)))

/-- How many aliases are followed in a node with at most `depth` collections nested. -/
def valueAliases : Nat → Node → Nat
  | 0, node => node.aliases
  | depth + 1, node =>
    node.aliases + (document.behind? node).elim 0 (Node.partAliases (valueAliases depth))

variable {document}

theorem reads_valueOfSight (sight : Sight) :
    Reads limit (valueOfSight sight) sight.value? 0 := by
  cases sight with
  | wideInteger n signed => exact reads_refuse _
  | nothing | bool | integer | float | string | sequence | mapping => exact reads_pure _

/-- A node with a local tag has no value. -/
theorem reads_unlessLocal {x : Decode α} (tag : Option Tag) (hx : Reads limit x result n) :
    Reads limit
      (do
        if (localTag? tag).isSome then Decode.refuse .localTag
        x)
      (if (localTag? tag).isSome then none else result) n := by
  split
  · exact reads_none fun count => ⟨_, rfl⟩
  · exact hx

theorem reads_scalarValue (tag : Option Tag) (text : String) (style : ScalarStyle) :
    Reads limit
      (if (localTag? tag).isSome then Decode.refuse .localTag
        else
          match sightOf tag text style with
          | .ok sight => valueOfSight sight
          | .error cause => Decode.refuse cause)
      (scalarValue? tag text style) 0 := by
  rw [scalarValue?]
  split
  · exact reads_refuse _
  · cases sightOf tag text style with
    | ok sight => exact reads_valueOfSight sight
    | error cause => exact reads_refuse cause

/-- Where no collection may be nested, only scalars are read. -/
theorem reads_valueWith_none (path : Path) (node : Node) :
    Reads document.aliasLimit (document.valueWith none path node)
      ((document.behind? node).bind (Node.value? none)) node.aliases := by
  rw [valueWith, ← Nat.add_zero node.aliases]
  refine (reads_follow node).bind fun target _ => ?_
  cases target with
  | scalar mark tag text style => exact (reads_scalarValue tag text style).placed mark path
  | seq mark tag | map mark tag =>
    exact (reads_unlessLocal tag (reads_throw (.tooDeep mark))).placed mark path
  | void => exact reads_pure _
  | «alias» | cut => exact reads_throw _

/-- Where collections may be nested, their parts are read. -/
theorem reads_valueWith_some {decoder : Path → Node → Decode Value} {part? : Node → Option Value}
    {cost : Node → Nat}
    (h : ∀ path node, Reads document.aliasLimit (decoder path node) (part? node) (cost node))
    (path : Path) (node : Node) :
    Reads document.aliasLimit (document.valueWith (some decoder) path node)
      ((document.behind? node).bind (Node.value? (some part?)))
      (node.aliases + (document.behind? node).elim 0 (Node.partAliases cost)) := by
  rw [valueWith]
  refine (reads_follow node).bind fun target htarget => ?_
  rw [htarget]
  cases target with
  | scalar mark tag text style => exact (reads_scalarValue tag text style).placed mark path
  | seq mark tag parts cut =>
    have hparts := reads_items (fun step => h (step :: path)) 0 parts
    exact (reads_unlessLocal tag (hparts.uncut cut Value.seq)).placed mark path
  | map mark tag entries cut =>
    have hentries := reads_entries (h path) (fun step => h (step :: path)) entries
    exact (reads_unlessLocal tag (hentries.uncut cut Value.map)).placed mark path
  | void => exact reads_pure _
  | «alias» | cut => exact reads_throw _

/-- **What is read without a schema.** -/
theorem reads_value (depth : Nat) (path : Path) (node : Node) :
    Reads document.aliasLimit (document.value depth path node) (document.value? depth node)
      (document.valueAliases depth node) := by
  induction depth generalizing path node with
  | zero => exact reads_valueWith_none path node
  | succ depth ih => exact reads_valueWith_some ih path node

/-! ### Whole documents -/

/-- **A document that holds together is decoded** exactly if there is something to read in its root
and the aliases stay within the limit. -/
theorem decode_eq_ok_iff {decoder : Node → Decode α} {a : α}
    (hwell : document.isWellFormed = true)
    (h : Reads document.aliasLimit (decoder document.root) result n) :
    document.decode decoder = .ok a ↔ result = some a ∧ n ≤ document.aliasLimit := by
  obtain ⟨hfailure, hmore⟩ : document.failure = none ∧ document.more = false := by
    simpa [isWellFormed] using hwell
  have hread (count : Nat) := h 0 a count
  rw [decode, hfailure, hmore]
  cases hrun : (decoder document.root).run 0 with
  | error e =>
    refine ⟨nofun, fun ⟨hresult, hlimit⟩ => ?_⟩
    have hok := (hread n).2 ⟨hresult, by omega, by omega⟩
    cases hrun.symm.trans hok
  | ok found =>
    obtain ⟨b, count⟩ := found
    constructor
    · rintro ⟨⟩
      obtain ⟨hresult, hcount, hlimit⟩ := (hread count).1 hrun
      exact ⟨hresult, by omega⟩
    · rintro ⟨hresult, hlimit⟩
      have hok := (hread n).2 ⟨hresult, by omega, by omega⟩
      cases hrun.symm.trans hok
      rfl

end Document

end RuntimeLauncher.Yaml
