import Mathlib.Data.List.Forall2
import Mathlib.Data.List.Induction
import RuntimeLauncher.Proofs.Settings.Search

/-!
# Layers form a band

Laying layers over one another is associative, and the blank layer changes nothing on either side.
What lies on top decides, so the same layer below has no say. These laws hold of layers as they are,
where a section that is present but blank is not the same as one that is absent. They hold of single
settings first, then of sections, of sections that may be absent, and at last of whole layers.

## Main Definitions

* `IsOverlay` — the laws of laying things over one another
* `Layer.withRuntime`, `Layer.withProxy` — a layer with a section that is present

## Main Statements

* `isOverlay_or`, `RuntimeLayer.isOverlay`, `ProxyLayer.isOverlay`, `isOverlay_sectionOnto`,
  `Layer.isOverlay` — the laws, from single settings up to layers
* `Layer.stack_append`, `Layer.stack_flatten` — a row of layers by its parts
* `Layer.search_yields_ok_iff` — a search makes the stack of the layers that it finds
* `Layer.stack_laws` — the laws of layers, and what a row of layers may be changed in

## Design Notes

A monoid in which a repeated factor can be left out where it comes the second time is known as a
left regular band. The upper layer is the left factor here.
-/

namespace RuntimeLauncher

/-- **The laws of laying things over one another.** -/
structure IsOverlay {α : Type} (blank : α) (onto : α → α → α) : Prop where
  blank_onto : ∀ lower, onto blank lower = lower
  onto_blank : ∀ upper, onto upper blank = upper
  assoc : ∀ upper middle lower, onto upper (onto middle lower) = onto (onto upper middle) lower
  /-- What lies on top can be left out below. -/
  leave_out : ∀ upper middle, onto upper (onto middle upper) = onto upper middle

namespace IsOverlay

variable {α : Type} {blank : α} {onto : α → α → α}

/-- Something laid over itself is itself. -/
theorem onto_self (h : IsOverlay blank onto) (a : α) : onto a a = a := by
  have hrepeat := h.leave_out a blank
  rwa [h.blank_onto, h.onto_blank] at hrepeat

/-- What lies on top can be left out below, whatever is laid between and below. -/
theorem leave_out_above (h : IsOverlay blank onto) (upper middle lower : α) :
    onto upper (onto middle (onto upper lower)) = onto upper (onto middle lower) := by
  rw [h.assoc middle, h.assoc upper, h.leave_out, ← h.assoc]

end IsOverlay

/-! ### From single settings to layers -/

/-- Single settings are laid over one another. -/
theorem isOverlay_or (α : Type) : IsOverlay (none : Option α) Option.or where
  blank_onto _ := Option.none_or
  onto_blank _ := Option.or_none
  assoc _ _ _ := Option.or_assoc.symm
  leave_out upper middle := by cases upper <;> simp

/-- The runtime's sections are laid over one another setting by setting. -/
theorem RuntimeLayer.isOverlay : IsOverlay RuntimeLayer.blank RuntimeLayer.onto where
  blank_onto _ := rfl
  onto_blank upper := by simp [onto, blank]
  assoc upper middle lower := by simp [onto, Option.or_assoc]
  leave_out upper middle := by simp [onto, (isOverlay_or _).leave_out]

/-- The proxy's sections are laid over one another setting by setting. -/
theorem ProxyLayer.isOverlay : IsOverlay ProxyLayer.blank ProxyLayer.onto where
  blank_onto _ := rfl
  onto_blank upper := by simp [onto, blank]
  assoc upper middle lower := by simp [onto, Option.or_assoc]
  leave_out upper middle := by simp [onto, (isOverlay_or _).leave_out]

/-- **Sections that may be absent** follow the laws if those that are present do. -/
theorem isOverlay_sectionOnto {α : Type} {blank : α} {onto : α → α → α}
    (h : IsOverlay blank onto) : IsOverlay none (Layer.sectionOnto blank onto) where
  blank_onto _ := rfl
  onto_blank upper := by
    cases upper with
    | none => rfl
    | some part => exact congrArg some (h.onto_blank part)
  assoc upper middle lower := by
    cases upper with
    | none => rfl
    | some part =>
      cases middle with
      | none => exact congrArg some (congrArg (onto · _) (h.onto_blank part).symm)
      | some between => exact congrArg some (h.assoc part between (lower.getD blank))
  leave_out upper middle := by
    cases middle with
    | none =>
      cases upper with
      | none => rfl
      | some part => exact congrArg some ((h.onto_self part).trans (h.onto_blank part).symm)
    | some between =>
      cases upper with
      | none => exact congrArg some (h.onto_blank between)
      | some part => exact congrArg some (h.leave_out part between)

namespace Layer

/-- **Layers are laid over one another.** -/
theorem isOverlay : IsOverlay blank onto where
  blank_onto _ := rfl
  onto_blank upper := by
    simp [onto, blank, (isOverlay_sectionOnto RuntimeLayer.isOverlay).onto_blank,
      (isOverlay_sectionOnto ProxyLayer.isOverlay).onto_blank]
  assoc upper middle lower := by
    simp [onto, (isOverlay_sectionOnto RuntimeLayer.isOverlay).assoc,
      (isOverlay_sectionOnto ProxyLayer.isOverlay).assoc, Option.or_assoc]
  leave_out upper middle := by
    simp [onto, (isOverlay_sectionOnto RuntimeLayer.isOverlay).leave_out,
      (isOverlay_sectionOnto ProxyLayer.isOverlay).leave_out, (isOverlay_or _).leave_out]

/-! ### Rows of layers -/

/-- A row of layers on top of another layer. -/
theorem foldl_onto (layers : List Layer) (lower : Layer) :
    layers.foldl (fun lower upper => upper.onto lower) lower = (stack layers).onto lower := by
  induction layers using List.reverseRecOn with
  | nil => rfl
  | append_singleton layers layer ih =>
    rw [stack, List.foldl_concat, List.foldl_concat, ih, isOverlay.assoc]
    rfl

theorem stack_append (front back : List Layer) :
    stack (front ++ back) = (stack back).onto (stack front) := by
  rw [stack, List.foldl_append, foldl_onto]
  rfl

theorem stack_cons (layer : Layer) (layers : List Layer) :
    stack (layer :: layers) = (stack layers).onto layer := by
  rw [stack, List.foldl_cons, foldl_onto, isOverlay.onto_blank]

/-- However a row of layers is cut into groups, the groups make the same together. -/
theorem stack_flatten (groups : List (List Layer)) :
    stack groups.flatten = stack (groups.map stack) := by
  induction groups with
  | nil => rfl
  | cons group groups ih => rw [List.flatten_cons, stack_append, List.map_cons, stack_cons, ih]

theorem stack_filter_ne_blank (layers : List Layer) :
    stack (layers.filter fun layer => layer ≠ blank) = stack layers := by
  induction layers with
  | nil => rfl
  | cons layer layers ih =>
    rw [List.filter_cons, stack_cons]
    split
    · rw [stack_cons, ih]
    · rename_i hblank
      obtain rfl : layer = blank := by simpa using hblank
      rw [ih, isOverlay.onto_blank]

theorem stack_leave_out (front between back : List Layer) (layer : Layer) :
    stack (front ++ layer :: between ++ layer :: back) =
      stack (front ++ between ++ layer :: back) := by
  simp only [stack_append, stack_cons]
  rw [← isOverlay.assoc (stack back), ← isOverlay.assoc (stack back), ← isOverlay.assoc,
    isOverlay.leave_out_above]

/-! ### Sections that are present and set nothing -/

/-- The layer with a section for the runtime, a blank one if it had none. -/
def withRuntime (layer : Layer) : Layer :=
  { layer with runtime := some (layer.runtime.getD .blank) }

/-- The layer with a section for the proxy, a blank one if it had none. -/
def withProxy (layer : Layer) : Layer := { layer with proxy := some (layer.proxy.getD .blank) }

theorem inLayer_withRuntime {α : Type} (leaf : Leaf α) (layer : Layer) :
    leaf.inLayer layer.withRuntime = leaf.inLayer layer := by
  obtain ⟨runtime⟩ := layer
  cases runtime <;> cases leaf <;> rfl

theorem inLayer_withProxy {α : Type} (leaf : Leaf α) (layer : Layer) :
    leaf.inLayer layer.withProxy = leaf.inLayer layer := by
  obtain ⟨_, proxy⟩ := layer
  cases proxy <;> cases leaf <;> rfl

/-- **A layer in a row may be replaced by one with the same single settings.** -/
theorem resolve_stack_congr {layer other : Layer}
    (h : ∀ {α : Type} (leaf : Leaf α), leaf.inLayer layer = leaf.inLayer other)
    (front back : List Layer) :
    (stack (front ++ layer :: back)).resolve = (stack (front ++ other :: back)).resolve := by
  refine Settings.eq_of_inSettings rfl fun leaf => ?_
  simp only [Leaf.inSettings_resolve, stack_append, stack_cons, Leaf.inLayer_onto, h]

/-! ### Searches -/

theorem visits_ok_iff {files : Files} {lower layer : Layer} {paths : List String}
    {events : List Log.Event} :
    Visits files lower paths (.ok layer) events ↔
      ∃ layers, paths.Forall₂ (Usable files) layers ∧ layer = (stack layers).onto lower ∧
        events = paths.map loaded := by
  induction paths generalizing lower layer events with
  | nil =>
    constructor
    · intro h
      cases h
      exact ⟨[], .nil, (isOverlay.blank_onto _).symm, rfl⟩
    · rintro ⟨layers, hlayers, rfl, rfl⟩
      cases hlayers
      exact .done lower
  | cons path paths ih =>
    constructor
    · intro h
      cases h with
      | @next _ upper _ _ _ _ husable hrest =>
        obtain ⟨layers, hlayers, rfl, rfl⟩ := ih.1 hrest
        exact ⟨upper :: layers, .cons husable hlayers, by rw [stack_cons, isOverlay.assoc], rfl⟩
    · rintro ⟨layers, hlayers, rfl, rfl⟩
      obtain ⟨upper, layers, husable, hrest, rfl⟩ := List.forall₂_cons_left_iff.1 hlayers
      rw [stack_cons, ← isOverlay.assoc]
      exact .next husable (ih.2 ⟨layers, hrest, rfl, rfl⟩)

/-- **A search makes the stack of the layers that it finds.** -/
theorem search_yields_ok_iff {files : Files} {dirs : List String} {layer : Layer}
    {events : List Log.Event} :
    (search files dirs).Yields (.ok layer) events ↔
      ∃ layers, (existing files dirs).Forall₂ (Usable files) layers ∧ layer = stack layers ∧
        events = (existing files dirs).map loaded := by
  simp only [search, searchOnto_yields_iff, visits_ok_iff, isOverlay.onto_blank]

/-- **The laws of layers.**  Laying layers over one another is associative, the blank layer is
neutral on both sides, a layer laid over itself is itself, and a layer on top can be left out below.
So a row of layers makes the same if it is cut into groups, if blank layers are left out, and if a
layer is left out that comes again later. The settings that a row resolves to do not change either
if an absent section of one of its layers is replaced by a blank one. And a search comes to such a
row, that of the files which are there. -/
theorem stack_laws :
    (∀ a b c : Layer, c.onto (b.onto a) = (c.onto b).onto a ∧ blank.onto a = a ∧
      a.onto blank = a ∧ a.onto a = a ∧ a.onto (b.onto a) = a.onto b) ∧
    (∀ groups : List (List Layer), stack (groups.map stack) = stack groups.flatten) ∧
    (∀ layers : List Layer, stack (layers.filter fun layer => layer ≠ blank) = stack layers) ∧
    (∀ (front between back : List Layer) (layer : Layer),
      stack (front ++ layer :: between ++ layer :: back) =
        stack (front ++ between ++ layer :: back)) ∧
    (∀ (front : List Layer) (layer : Layer) (back : List Layer),
      (stack (front ++ layer.withRuntime :: back)).resolve =
          (stack (front ++ layer :: back)).resolve ∧
        (stack (front ++ layer.withProxy :: back)).resolve =
          (stack (front ++ layer :: back)).resolve) ∧
    ∀ (files : Files) (dirs : List String) (layer : Layer) (events : List Log.Event),
      (search files dirs).Yields (.ok layer) events ↔
        ∃ layers, (existing files dirs).Forall₂ (Usable files) layers ∧ layer = stack layers ∧
          events = (existing files dirs).map loaded := by
  refine ⟨fun a b c => ?_, fun groups => (stack_flatten groups).symm, stack_filter_ne_blank,
    stack_leave_out, fun front layer back => ?_, fun _ _ _ _ => search_yields_ok_iff⟩
  · exact ⟨isOverlay.assoc c b a, isOverlay.blank_onto a, isOverlay.onto_blank a,
      isOverlay.onto_self a, isOverlay.leave_out a b⟩
  · exact ⟨resolve_stack_congr (fun leaf => inLayer_withRuntime leaf layer) front back,
      resolve_stack_congr (fun leaf => inLayer_withProxy leaf layer) front back⟩

end Layer

end RuntimeLauncher
