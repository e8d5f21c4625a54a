import Mathlib.Data.List.Forall2
import Mathlib.Data.List.Induction
import Mathlib.Data.List.Nodup
import Mathlib.Data.List.Perm.Basic
import Mathlib.Data.String.Basic
import RuntimeLauncher.Store.Sorted

/-!
# Sorted entries are a map

Setting keys one after another leaves the entries in the order of their keys, each key with the
value that it was given last. If no key is repeated, the last values do not depend on the order in
which the keys were set.

## Main Definitions

* `Sorted.Ordered` — the keys increase from entry to entry
* `Sorted.lastValue?` — the value that a key was given last
* `Sorted.Matched`, `Sorted.Shuffled` — the same keys with values that correspond, in the same order
  or in another one

## Main Statements

* `ordered_ofList` — sorted entries are in order
* `mem_ofList_iff` — they hold each key with its last value
* `Matched.lastValue?_rel`, `Shuffled.lastValue?_rel` — the last values correspond, too
-/

namespace RuntimeLauncher.Sorted

variable {α β : Type} {key : String} {value : α} {entries : List (String × α)}

/-- The keys increase from entry to entry. -/
def Ordered (entries : List (String × α)) : Prop := entries.Pairwise fun a b => a.1 < b.1

/-- The value that a key was given last. -/
def lastValue? (entries : List (String × α)) (key : String) : Option α := entries.reverse.lookup key

theorem ordered_put (key : String) (value : α) (h : Ordered entries) :
    Ordered (put key value entries) := by
  induction entries with
  | nil => exact List.pairwise_singleton _ _
  | cons entry rest ih =>
    obtain ⟨hentry, hrest⟩ := List.pairwise_cons.1 h
    rw [put]
    split
    · rename_i hlt
      refine List.pairwise_cons.2 ⟨?_, h⟩
      exact List.forall_mem_cons.2 ⟨hlt, fun other hother => hlt.trans (hentry other hother)⟩
    · split
      · rename_i heq
        exact List.pairwise_cons.2 ⟨fun other hother => heq ▸ hentry other hother, hrest⟩
      · rename_i hnlt hne
        refine List.pairwise_cons.2 ⟨fun other hother => ?_, ih hrest⟩
        have hkey := mem_keys_put.1 (List.mem_map_of_mem (f := Prod.fst) hother)
        rcases hkey with heq | hmem
        · rw [heq]
          exact lt_of_le_of_ne (not_lt.1 hnlt) (Ne.symm hne)
        · obtain ⟨old, hold, heq⟩ := List.mem_map.1 hmem
          exact heq ▸ hentry old hold

theorem lookup_cons_eq_if (entry : String × α) (rest : List (String × α)) (key : String) :
    (entry :: rest).lookup key = if key = entry.1 then some entry.2 else rest.lookup key := by
  rw [List.lookup_cons]
  by_cases h : key = entry.1
  · simp [h]
  · rw [if_neg h, beq_false_of_ne h]

/-- Setting a key changes the value of that key alone. -/
theorem lookup_put (key : String) (value : α) (entries : List (String × α)) (other : String) :
    (put key value entries).lookup other =
      if other = key then some value else entries.lookup other := by
  induction entries with
  | nil => rw [put, lookup_cons_eq_if]
  | cons entry rest ih =>
    rw [put]
    split
    · rw [lookup_cons_eq_if]
    · split
      · rename_i heq
        rw [lookup_cons_eq_if, lookup_cons_eq_if, ← heq]
        split <;> rfl
      · rename_i hne
        rw [lookup_cons_eq_if, lookup_cons_eq_if, ih]
        by_cases h : other = entry.1
        · have hkey : other ≠ key := fun hkey => hne (hkey.symm.trans h)
          rw [if_pos h, if_pos h, if_neg hkey]
        · rw [if_neg h, if_neg h]

theorem ofList_concat (entries : List (String × α)) (entry : String × α) :
    ofList (entries ++ [entry]) = put entry.1 entry.2 (ofList entries) := by
  rw [ofList, List.foldl_append]
  rfl

/-- **Sorted entries are in order.** -/
theorem ordered_ofList (entries : List (String × α)) : Ordered (ofList entries) := by
  induction entries using List.reverseRecOn with
  | nil => exact .nil
  | append_singleton entries entry ih =>
    rw [ofList_concat]
    exact ordered_put _ _ ih

theorem lookup_ofList (entries : List (String × α)) (key : String) :
    (ofList entries).lookup key = lastValue? entries key := by
  induction entries using List.reverseRecOn with
  | nil => rfl
  | append_singleton entries entry ih =>
    rw [ofList_concat, lookup_put, ih, lastValue?, lastValue?, List.reverse_concat,
      lookup_cons_eq_if]

theorem mem_of_lookup {κ : Type} [BEq κ] [LawfulBEq κ] {entries : List (κ × α)} {key : κ}
    (h : entries.lookup key = some value) : (key, value) ∈ entries := by
  obtain ⟨front, rest, rfl, -⟩ := List.lookup_eq_some_iff.1 h
  exact List.mem_append_right _ List.mem_cons_self

theorem mem_of_lastValue? (h : lastValue? entries key = some value) : (key, value) ∈ entries :=
  List.mem_reverse.1 (mem_of_lookup h)

/-- In entries with distinct keys, looking a key up finds the entry that has it. -/
theorem lookup_eq_some_iff_mem {κ : Type} [BEq κ] [LawfulBEq κ] {entries : List (κ × α)} {key : κ}
    (h : (entries.map Prod.fst).Nodup) :
    entries.lookup key = some value ↔ (key, value) ∈ entries := by
  refine ⟨mem_of_lookup, fun hmem => ?_⟩
  obtain ⟨front, rest, rfl⟩ := List.append_of_mem hmem
  refine List.lookup_eq_some_iff.2 ⟨front, rest, rfl, fun entry hentry => bne_iff_ne.2 ?_⟩
  -- The key behind `front` does not stand in `front` as well.
  rw [List.map_append] at h
  exact fun heq => List.disjoint_of_nodup_append h (List.mem_map_of_mem hentry)
    (by simp [heq])

theorem Ordered.nodup (h : Ordered entries) : (entries.map Prod.fst).Nodup := by
  rw [List.nodup_iff_pairwise_ne, List.pairwise_map]
  exact h.imp fun hlt => hlt.ne

/-- **Sorted entries hold each key with its last value.** -/
theorem mem_ofList_iff : (key, value) ∈ ofList entries ↔ lastValue? entries key = some value := by
  rw [← lookup_ofList, lookup_eq_some_iff_mem (ordered_ofList entries).nodup]

/-- Without repeated keys, every entry has the last value of its key. -/
theorem lastValue?_eq_some_iff_mem (h : (entries.map Prod.fst).Nodup) :
    lastValue? entries key = some value ↔ (key, value) ∈ entries := by
  have hreverse : (entries.reverse.map Prod.fst).Nodup := by
    rw [List.map_reverse]
    exact List.nodup_reverse.2 h
  rw [lastValue?, lookup_eq_some_iff_mem hreverse, List.mem_reverse]

/-! ### Entries that correspond -/

/-- Two lists have the same keys in the same order, with related values. -/
abbrev Matched (R : α → β → Prop) (a : List (String × α)) (b : List (String × β)) : Prop :=
  a.Forall₂ (fun x y => x.1 = y.1 ∧ R x.2 y.2) b

/-- Two lists have the same entries up to their order, with related values. -/
def Shuffled (R : α → β → Prop) (a : List (String × α)) (b : List (String × β)) : Prop :=
  ∃ middle, a.Perm middle ∧ Matched R middle b

variable {R : α → β → Prop} {a : List (String × α)} {b : List (String × β)}

theorem Matched.keys_eq (h : Matched R a b) : a.map Prod.fst = b.map Prod.fst := by
  induction h with
  | nil => rfl
  | cons hhead _ ih => rw [List.map_cons, List.map_cons, hhead.1, ih]

theorem Matched.lookup_rel (h : Matched R a b) (key : String) :
    Option.Rel R (a.lookup key) (b.lookup key) := by
  induction h with
  | nil => exact .none
  | cons hhead _ ih =>
    rw [lookup_cons_eq_if, lookup_cons_eq_if, hhead.1]
    split
    · exact .some hhead.2
    · exact ih

theorem Matched.lastValue?_rel (h : Matched R a b) (key : String) :
    Option.Rel R (lastValue? a key) (lastValue? b key) :=
  Matched.lookup_rel (List.rel_reverse h) key

theorem Matched.filter (h : Matched R a b) (p : String → Bool) :
    Matched R (a.filter fun entry => p entry.1) (b.filter fun entry => p entry.1) := by
  induction h with
  | nil => exact .nil
  | cons hhead _ ih =>
    rw [List.filter_cons, List.filter_cons, hhead.1]
    split
    · exact .cons hhead ih
    · exact ih

/-- Some list corresponds to a given one as soon as some value corresponds to each value. -/
theorem exists_matched_iff : (∃ b, Matched R a b) ↔ ∀ x ∈ a, ∃ value, R x.2 value := by
  induction a with
  | nil => exact ⟨nofun, fun _ => ⟨[], .nil⟩⟩
  | cons x rest ih =>
    rw [List.forall_mem_cons, ← ih]
    constructor
    · rintro ⟨_, h⟩
      obtain ⟨y, others, hhead, hrest, rfl⟩ := List.forall₂_cons_left_iff.1 h
      exact ⟨⟨y.2, hhead.2⟩, others, hrest⟩
    · rintro ⟨⟨value, hvalue⟩, others, hrest⟩
      exact ⟨(x.1, value) :: others, .cons ⟨rfl, hvalue⟩ hrest⟩

namespace Shuffled

theorem keys_perm (h : Shuffled R a b) : (a.map Prod.fst).Perm (b.map Prod.fst) := by
  obtain ⟨middle, hperm, hrel⟩ := h
  exact Matched.keys_eq hrel ▸ hperm.map Prod.fst

theorem imp {S : α → β → Prop} (h : Shuffled R a b) (himp : ∀ x y, R x y → S x y) :
    Shuffled S a b := by
  obtain ⟨middle, hperm, hrel⟩ := h
  exact ⟨middle, hperm, hrel.imp fun _ _ hxy => ⟨hxy.1, himp _ _ hxy.2⟩⟩

theorem symm (h : Shuffled R a b) : Shuffled (flip R) b a := by
  obtain ⟨middle, hperm, hrel⟩ := h
  obtain ⟨other, hother, hperm'⟩ := List.perm_comp_forall₂ hperm hrel
  exact ⟨other, hperm'.symm, hother.flip.imp fun _ _ hxy => ⟨hxy.1.symm, hxy.2⟩⟩

theorem exists_of_mem (h : Shuffled R a b) (hmem : (key, value) ∈ a) :
    ∃ other, (key, other) ∈ b ∧ R value other := by
  obtain ⟨middle, hperm, hrel⟩ := h
  have hmiddle := hperm.subset hmem
  clear hperm hmem
  induction hrel with
  | nil => cases hmiddle
  | @cons x y _ _ hhead _ ih =>
    obtain ⟨hkey, hvalue⟩ := hhead
    rcases List.mem_cons.1 hmiddle with rfl | hrest
    · exact ⟨y.2, List.mem_cons.2 (.inl (Prod.ext hkey rfl)), hvalue⟩
    · obtain ⟨other, hother, hR⟩ := ih hrest
      exact ⟨other, List.mem_cons_of_mem _ hother, hR⟩

/-- **Another order changes no last value,** if no key is repeated. -/
theorem lastValue?_rel (h : Shuffled R a b) (hnodup : (a.map Prod.fst).Nodup)
    (hvalue : lastValue? a key = some value) :
    ∃ other, lastValue? b key = some other ∧ R value other := by
  obtain ⟨other, hmem, hrel⟩ := h.exists_of_mem ((lastValue?_eq_some_iff_mem hnodup).1 hvalue)
  exact ⟨other, (lastValue?_eq_some_iff_mem (h.keys_perm.nodup_iff.1 hnodup)).2 hmem, hrel⟩

end Shuffled

end RuntimeLauncher.Sorted
