import RuntimeLauncher.Proofs.Store.Alike
import RuntimeLauncher.Proofs.Text.ByteOrder
import RuntimeLauncher.Store.File

/-!
# What a store file puts into the store

A store file can spell one cell in several ways, since paths and names are told apart there but not
in the store. Which of the spellings wins depends on the spellings alone: it is the greatest one in
the order of the bytes, first of the path and then of the name. So the order in which the file is
written does not matter.

## Main Definitions

* `Sheet.Lists` — the sheet gives a value to a path and a name as they are spelled
* `Sheet.Contends`, `Sheet.Prevails` — an entry for a cell, and the entry that the cell keeps
* `Sheet.Reordered` — two sheets with the same entries in another order

## Main Statements

* `Sheet.toStore_history` — the store of a sheet, by its history of insertions
* `Sheet.value?_history_iff` — a cell keeps the value of the greatest spelling
* `Sheet.alike_of_reordered` — the order of the entries does not matter
* `ofText_settled_by_byte_order` — all of it, for the text of a file

## Design Notes

Within a section a path that is written twice in the same way counts with its last content, and so
does a name within a path. `Lists` is about the entries that remain. When two sheets are compared,
values other than texts need not be the same, since a reader learns no more than that they are not
texts. So the entries inside such a value may stand in another order, too.
-/

namespace RuntimeLauncher.Store

variable {sheet other : Sheet} {hive : Hive} {path name p n : String} {value : Value}

/-- The last of a row in order is its greatest. -/
theorem getLast?_eq_some_iff_of_pairwise {α : Type} {R : α → α → Prop} {l : List α} {x : α}
    (h : l.Pairwise R) (hasymm : ∀ x ∈ l, ∀ y ∈ l, R x y → ¬ R y x) :
    l.getLast? = some x ↔ x ∈ l ∧ ∀ y ∈ l, y = x ∨ R y x := by
  rcases List.eq_nil_or_concat l with rfl | ⟨front, last, rfl⟩
  · simp
  · rw [List.concat_eq_append] at *
    have hlast : ∀ y ∈ front, R y last := fun y hy =>
      (List.pairwise_append.1 h).2.2 y hy last (List.mem_singleton_self last)
    have hmem : last ∈ front ++ [last] := List.mem_append_right _ (List.mem_singleton_self last)
    rw [List.getLast?_concat, Option.some.injEq]
    constructor
    · rintro rfl
      refine ⟨hmem, fun y hy => ?_⟩
      rcases List.mem_append.1 hy with hfront | hend
      · exact .inr (hlast y hfront)
      · exact .inl (List.mem_singleton.1 hend)
    · rintro ⟨hx, hgreatest⟩
      rcases hgreatest last hmem with heq | hbefore
      · exact heq
      · -- An element that is not the last stands before it.
        rcases List.mem_append.1 hx with hfront | hend
        · exact absurd (hlast x hfront) (hasymm last hmem x hx hbefore)
        · exact (List.mem_singleton.1 hend).symm

namespace Sheet

/-! ### The entries of a sheet -/

/-- The section of a hive. -/
def under (sheet : Sheet) : Hive → List (String × Names)
  | .localMachine => sheet.localMachine
  | .currentUser => sheet.currentUser

/-- The sheet gives a value to a path and a name as they are spelled. -/
def Lists (sheet : Sheet) (hive : Hive) (path name : String) (value : Value) : Prop :=
  ∃ names, Sorted.lastValue? (sheet.under hive) path = some names ∧
    Sorted.lastValue? names name = some value

theorem Lists.unique {v w : Value} (hv : sheet.Lists hive path name v)
    (hw : sheet.Lists hive path name w) : v = w := by
  obtain ⟨names, hnames, hv⟩ := hv
  obtain ⟨_, hnames', hw⟩ := hw
  rw [hnames] at hnames'
  cases hnames'
  exact Option.some.inj (hv.symm.trans hw)

/-- A spelling comes before another one in the order of bytes, first of paths and then of names. -/
def Before (a b : String × String) : Prop :=
  Text.bytes a.1 < Text.bytes b.1 ∨ a.1 = b.1 ∧ Text.bytes a.2 < Text.bytes b.2

theorem before_iff {a b : String × String} :
    Before a b ↔ a.1 < b.1 ∨ a.1 = b.1 ∧ a.2 < b.2 := by
  rw [Before, Text.bytes_lt_iff, Text.bytes_lt_iff]

theorem Before.asymm {a b : String × String} (h : Before a b) : ¬ Before b a := by
  rw [before_iff] at *
  rcases h with hpath | ⟨hpath, hname⟩
  · exact fun h => h.elim hpath.asymm fun hback => hpath.ne hback.1.symm
  · exact fun h => h.elim (fun hback => hback.ne hpath.symm) fun hback => hname.asymm hback.2

theorem mem_rows_iff {keys : List (String × Names)} :
    (path, name, value) ∈ rows keys ↔ ∃ names, Sorted.lastValue? keys path = some names ∧
      Sorted.lastValue? names name = some value := by
  simp only [rows, List.mem_flatMap, List.mem_map, Prod.exists, Prod.mk.injEq]
  constructor
  · rintro ⟨_, names, hkey, _, _, hentry, rfl, rfl, rfl⟩
    exact ⟨names, Sorted.mem_ofList_iff.1 hkey, Sorted.mem_ofList_iff.1 hentry⟩
  · rintro ⟨names, hkey, hentry⟩
    exact ⟨path, names, Sorted.mem_ofList_iff.2 hkey, name, value, Sorted.mem_ofList_iff.2 hentry,
      rfl, rfl, rfl⟩

/-- The values of a hive are put into the store in the order of their spellings. -/
theorem pairwise_rows (keys : List (String × Names)) :
    (rows keys).Pairwise fun a b => Before (a.1, a.2.1) (b.1, b.2.1) := by
  rw [rows, List.flatMap, List.pairwise_flatten, List.pairwise_map]
  refine ⟨?_, (Sorted.ordered_ofList keys).imp fun hpath a ha b hb => ?_⟩
  · intro row hrow
    obtain ⟨key, -, rfl⟩ := List.mem_map.1 hrow
    rw [List.pairwise_map]
    refine (Sorted.ordered_ofList key.2).imp fun {_ _} hname => ?_
    exact before_iff.2 (.inr ⟨rfl, hname⟩)
  · obtain ⟨_, -, rfl⟩ := List.mem_map.1 ha
    obtain ⟨_, -, rfl⟩ := List.mem_map.1 hb
    exact before_iff.2 (.inl hpath)

/-! ### The history of a sheet -/

/-- The insertions of the values of a hive. -/
def insertions (sheet : Sheet) (hive : Hive) : History :=
  (rows (sheet.under hive)).map fun row => ⟨hive, row.1, row.2.1, row.2.2⟩

/-- The insertions that a sheet makes. -/
def history (sheet : Sheet) : History :=
  sheet.insertions .localMachine ++ sheet.insertions .currentUser

/-- **The store of a sheet is that of its history.** -/
theorem toStore_history (sheet : Sheet) : sheet.history.toStore = ofSheet sheet := by
  rw [history, History.toStore, insertions, insertions, List.foldl_append, List.foldl_map,
    List.foldl_map]
  rfl

theorem mem_insertions_iff {i : Insertion} :
    i ∈ sheet.insertions hive ↔ i.hive = hive ∧ sheet.Lists hive i.path i.name i.value := by
  simp only [insertions, List.mem_map, Prod.exists]
  constructor
  · rintro ⟨path, name, value, hrow, rfl⟩
    exact ⟨rfl, mem_rows_iff.1 hrow⟩
  · rintro ⟨rfl, hlists⟩
    exact ⟨i.path, i.name, i.value, mem_rows_iff.2 hlists, rfl⟩

theorem mem_history_iff {i : Insertion} :
    i ∈ sheet.history ↔ sheet.Lists i.hive i.path i.name i.value := by
  rw [history, List.mem_append, mem_insertions_iff, mem_insertions_iff]
  constructor
  · rintro (⟨hhive, hlists⟩ | ⟨hhive, hlists⟩) <;> exact hhive ▸ hlists
  · intro hlists
    cases hhive : i.hive with
    | localMachine => exact .inl ⟨rfl, hhive ▸ hlists⟩
    | currentUser => exact .inr ⟨rfl, hhive ▸ hlists⟩

theorem pairwise_history (sheet : Sheet) :
    sheet.history.Pairwise fun i j =>
      i.hive = j.hive → Before (i.path, i.name) (j.path, j.name) := by
  have hinsertions (hive : Hive) : (sheet.insertions hive).Pairwise fun i j =>
      i.hive = j.hive → Before (i.path, i.name) (j.path, j.name) := by
    rw [insertions, List.pairwise_map]
    refine (pairwise_rows (sheet.under hive)).imp fun {_ _} hbefore => ?_
    exact fun _ => hbefore
  refine List.pairwise_append.2 ⟨hinsertions _, hinsertions _, fun i hi j hj hhive => ?_⟩
  rw [(mem_insertions_iff.1 hi).1, (mem_insertions_iff.1 hj).1] at hhive
  cases hhive

/-! ### Contending spellings -/

/-- Under the spelling `p` and `n`, the sheet gives a value to the cell of `path` and `name`. -/
structure Contends (sheet : Sheet) (hive : Hive) (path name p n : String) (value : Value) :
    Prop where
  lists : sheet.Lists hive p n value
  path_eq : KeyPath.normal p = KeyPath.normal path
  name_eq : Text.sameUpToCase n.toList name.toList = true

/-- No other spelling of the cell is greater. -/
structure Prevails (sheet : Sheet) (hive : Hive) (path name p n : String) (value : Value) :
    Prop extends sheet.Contends hive path name p n value where
  greatest : ∀ p' n' value', sheet.Contends hive path name p' n' value' →
    (p', n') = (p, n) ∨ Before (p', n') (p, n)

theorem mem_filter_history_iff {i : Insertion} :
    i ∈ sheet.history.filter (fun i => i.Fills hive (KeyPath.components path) name) ↔
      i.hive = hive ∧ sheet.Contends hive path name i.path i.name i.value := by
  rw [List.mem_filter, mem_history_iff, decide_eq_true_iff, Insertion.Fills,
    ← KeyPath.normal_eq_iff]
  constructor
  · rintro ⟨hlists, rfl, hpath, hname⟩
    exact ⟨rfl, hlists, hpath, hname⟩
  · rintro ⟨rfl, hlists, hpath, hname⟩
    exact ⟨hlists, rfl, hpath, hname⟩

/-- **A cell keeps the value of its greatest spelling.** -/
theorem value?_history_iff :
    sheet.history.value? hive (KeyPath.components path) name = some value ↔
      ∃ p n, sheet.Prevails hive path name p n value := by
  have hlast (i : Insertion) := getLast?_eq_some_iff_of_pairwise (x := i)
    ((pairwise_history sheet).filter fun i => i.Fills hive (KeyPath.components path) name)
    (fun i hi j hj hij hji => by
      obtain ⟨hi, -⟩ := mem_filter_history_iff.1 hi
      obtain ⟨hj, -⟩ := mem_filter_history_iff.1 hj
      exact (hij (hi.trans hj.symm)).asymm (hji (hj.trans hi.symm)))
  simp only [mem_filter_history_iff] at hlast
  rw [History.value?, Option.map_eq_some_iff]
  simp only [hlast]
  constructor
  · rintro ⟨i, ⟨⟨hhive, hi⟩, hgreatest⟩, rfl⟩
    refine ⟨i.path, i.name, hi, fun p' n' value' h' => ?_⟩
    rcases hgreatest ⟨hive, p', n', value'⟩ ⟨rfl, h'⟩ with heq | hbefore
    · exact .inl (congrArg (fun i => (i.path, i.name)) heq)
    · exact .inr (hbefore hhive.symm)
  · rintro ⟨p, n, h, hgreatest⟩
    refine ⟨⟨hive, p, n, value⟩, ⟨⟨rfl, h⟩, fun j hj => ?_⟩, rfl⟩
    obtain ⟨hhive, hj⟩ := hj
    rcases hgreatest j.path j.name j.value hj with heq | hbefore
    · obtain ⟨hpath, hname⟩ := Prod.mk.inj heq
      have hvalue : j.value = value := hj.lists.unique (hpath ▸ hname ▸ h.lists)
      cases j
      cases hhive
      cases hpath
      cases hname
      cases hvalue
      exact .inl rfl
    · exact .inr fun _ => hbefore

theorem value?_history_eq_none_iff :
    sheet.history.value? hive (KeyPath.components path) name = none ↔
      ¬ ∃ p n value, sheet.Contends hive path name p n value := by
  rw [History.value?, Option.map_eq_none_iff, List.getLast?_eq_none_iff,
    List.eq_nil_iff_forall_not_mem]
  simp only [mem_filter_history_iff, not_exists, not_and]
  exact ⟨fun h p n value => h ⟨hive, p, n, value⟩ rfl,
    fun h i hhive => h i.path i.name i.value⟩

/-- The keys of a sheet are those on the way to its values. -/
theorem hasKey_history_iff {components : List (List Char)} :
    sheet.history.HasKey hive components ↔
      ∃ p n value, sheet.Lists hive p n value ∧ components <+: KeyPath.components p := by
  simp only [History.HasKey, mem_history_iff]
  constructor
  · rintro ⟨i, hlists, rfl, hprefix⟩
    exact ⟨i.path, i.name, i.value, hlists, hprefix⟩
  · rintro ⟨p, n, value, hlists, hprefix⟩
    exact ⟨⟨hive, p, n, value⟩, hlists, rfl, hprefix⟩

end Sheet

/-! ### Other orders of the same entries -/

namespace Sheet

/-- Both sheets have the same entries up to their order, on both levels, with values that a reader
cannot tell apart. -/
def Reordered (sheet other : Sheet) : Prop :=
  ∀ hive, Sorted.Shuffled (Sorted.Shuffled Value.Alike) (sheet.under hive) (other.under hive)

/-- The sheet repeats no path of a section and no name of a path. -/
def Distinct (sheet : Sheet) : Prop :=
  ∀ hive, ((sheet.under hive).map Prod.fst).Nodup ∧
    ∀ entry ∈ sheet.under hive, (entry.2.map Prod.fst).Nodup

theorem Reordered.symm (h : sheet.Reordered other) : other.Reordered sheet := fun hive =>
  (h hive).symm.imp fun _ _ hnames => hnames.symm.imp fun _ _ => Value.Alike.symm

theorem Distinct.of_reordered (hdistinct : sheet.Distinct) (h : sheet.Reordered other) :
    other.Distinct := by
  intro hive
  obtain ⟨hpaths, hnames⟩ := hdistinct hive
  refine ⟨(h hive).keys_perm.nodup_iff.1 hpaths, fun entry hentry => ?_⟩
  obtain ⟨names, hmem, hrel⟩ := (h hive).symm.exists_of_mem hentry
  exact hrel.keys_perm.nodup_iff.1 (hnames (entry.1, names) hmem)

theorem Lists.of_reordered (hlists : sheet.Lists hive path name value)
    (hdistinct : sheet.Distinct) (h : sheet.Reordered other) :
    ∃ value', other.Lists hive path name value' ∧ value.Alike value' := by
  obtain ⟨names, hpath, hname⟩ := hlists
  obtain ⟨hpaths, hnames⟩ := hdistinct hive
  obtain ⟨names', hpath', hrel⟩ := (h hive).lastValue?_rel hpaths hpath
  have hmem := (Sorted.lastValue?_eq_some_iff_mem hpaths).1 hpath
  obtain ⟨value', hname', halike⟩ := hrel.lastValue?_rel (hnames _ hmem) hname
  exact ⟨value', ⟨names', hpath', hname'⟩, halike⟩

theorem Contends.of_reordered (hcontends : sheet.Contends hive path name p n value)
    (hdistinct : sheet.Distinct) (h : sheet.Reordered other) :
    ∃ value', other.Contends hive path name p n value' ∧ value.Alike value' := by
  obtain ⟨value', hlists, halike⟩ := hcontends.lists.of_reordered hdistinct h
  exact ⟨value', ⟨hlists, hcontends.path_eq, hcontends.name_eq⟩, halike⟩

theorem Prevails.of_reordered (hprevails : sheet.Prevails hive path name p n value)
    (hdistinct : sheet.Distinct) (h : sheet.Reordered other) :
    ∃ value', other.Prevails hive path name p n value' ∧ value.Alike value' := by
  obtain ⟨value', hcontends, halike⟩ := hprevails.toContends.of_reordered hdistinct h
  refine ⟨value', ⟨hcontends, fun p' n' w hw => ?_⟩, halike⟩
  -- Whatever contends in the other sheet does so in this one.
  obtain ⟨w', hw', -⟩ := hw.of_reordered (hdistinct.of_reordered h) h.symm
  exact hprevails.greatest p' n' w' hw'

/-- **The order of the entries does not matter.** -/
theorem alike_of_reordered (hdistinct : sheet.Distinct) (h : sheet.Reordered other) :
    (ofSheet sheet).Alike (ofSheet other) := by
  rw [← toStore_history, ← toStore_history]
  refine History.toStore_alike fun hive path name => ?_
  cases hvalue : sheet.history.value? hive (KeyPath.components path) name with
  | some value =>
    obtain ⟨p, n, hprevails⟩ := value?_history_iff.1 hvalue
    obtain ⟨value', hprevails', halike⟩ := hprevails.of_reordered hdistinct h
    rw [value?_history_iff.2 ⟨p, n, hprevails'⟩]
    exact .some halike
  | none =>
    have hnone : other.history.value? hive (KeyPath.components path) name = none := by
      rw [value?_history_eq_none_iff] at hvalue ⊢
      rintro ⟨p, n, value, hcontends⟩
      obtain ⟨value', hcontends', -⟩ := hcontends.of_reordered (hdistinct.of_reordered h) h.symm
      exact hvalue ⟨p, n, value', hcontends'⟩
    rw [hnone]
    exact .none

end Sheet

/-! ### The text of a file -/

/-- The store of a file is that of its sheet. -/
theorem ofText_eq_ok_iff {text : String} {store : Store} :
    ofText text = .ok store ↔ ∃ sheet, Sheet.decode text = .ok sheet ∧ ofSheet sheet = store := by
  rw [ofText]
  cases Sheet.decode text with
  | error e => exact ⟨nofun, fun ⟨_, h, _⟩ => nomatch h⟩
  | ok sheet => simp [Except.map]

/-- Only what YAML itself takes for a text is a text. -/
theorem Value.ofYaml?_eq_string_iff {yaml : Yaml.Value} {text : String} :
    Value.ofYaml? yaml = some (.string text) ↔ yaml = .string text := by
  cases yaml with
  | string => simp [ofYaml?]
  | null | bool | int | float | seq | map =>
    simp only [ofYaml?]
    split <;> simp

/-- **Clashes are settled by byte order, and the order of a file does not matter.**  The store of a
file keeps in every cell the value of the greatest spelling of the cell, and nothing where no
spelling of the cell occurs. Reading gives the value if it is a text, as YAML takes it. Only the
keys on the way to a value exist. A file with the same entries in another order, without repeated
ones, makes a store that answers alike, whatever is done with it. -/
theorem ofText_settled_by_byte_order {text : String} (h : Sheet.decode text = .ok sheet) :
    ∃ store, ofText text = .ok store ∧
      (∀ hive path name,
        (∀ value, store.cells.get? (.of hive path name) = some value ↔
          ∃ p n, sheet.Prevails hive path name p n value) ∧
        (store.cells.get? (.of hive path name) = none ↔
          ¬ ∃ p n value, sheet.Contends hive path name p n value) ∧
        ((∃ key after, store.open hive path = .ok (key, after)) ↔
          ∃ p n value, sheet.Lists hive p n value ∧
            KeyPath.components path <+: KeyPath.components p) ∧
        ∀ key after, store.open hive path = .ok (key, after) →
          (∀ found, key.getString name = .ok found ↔
            ∃ p n, sheet.Prevails hive path name p n (.string found)) ∧
          (key.getString name = .error (.wrongType (KeyPath.normal path ++ "\\" ++ name)) ↔
            ∃ p n value, sheet.Prevails hive path name p n value ∧
              ∀ found, value ≠ .string found) ∧
          (key.getString name = .error (.valueNotFound (KeyPath.normal path ++ "\\" ++ name)) ↔
            ¬ ∃ p n value, sheet.Contends hive path name p n value)) ∧
      (∀ yaml found, Value.ofYaml? yaml = some (.string found) ↔ yaml = .string found) ∧
      ∀ otherText other, Sheet.decode otherText = .ok other → sheet.Distinct →
        sheet.Reordered other →
          ∃ otherStore, ofText otherText = .ok otherStore ∧ AnswersAlike store otherStore := by
  have hvalue (hive : Hive) (path name : String) (value : Value) :
      (ofSheet sheet).cells.get? (.of hive path name) = some value ↔
        ∃ p n, sheet.Prevails hive path name p n value := by
    rw [← Sheet.toStore_history, History.get?_toStore, Sheet.value?_history_iff]
  have hnone (hive : Hive) (path name : String) :
      (ofSheet sheet).cells.get? (.of hive path name) = none ↔
        ¬ ∃ p n value, sheet.Contends hive path name p n value := by
    rw [← Sheet.toStore_history, History.get?_toStore, Sheet.value?_history_eq_none_iff]
  refine ⟨ofSheet sheet, ofText_eq_ok_iff.2 ⟨_, h, rfl⟩, fun hive path name => ?_,
    fun _ _ => Value.ofYaml?_eq_string_iff, fun otherText other h' hdistinct hreordered => ?_⟩
  · refine ⟨hvalue hive path name, hnone hive path name, ?_, fun key after hkey => ?_⟩
    · rw [← Sheet.hasKey_history_iff, ← History.hasKey_toStore_iff, Sheet.toStore_history]
      simp [«open», grant_eq_ok_iff]
    · obtain ⟨-, rfl, -⟩ := grant_eq_ok_iff.1 hkey
      refine ⟨fun found => ?_, ?_, ?_⟩
      · exact Handle.getString_eq_ok_iff.trans (hvalue hive path name _)
      · refine Handle.getString_eq_wrongType_iff.trans ?_
        constructor
        · rintro ⟨value, hget, hother⟩
          obtain ⟨p, n, hprevails⟩ := (hvalue hive path name value).1 hget
          exact ⟨p, n, value, hprevails, hother⟩
        · rintro ⟨p, n, value, hprevails, hother⟩
          exact ⟨value, (hvalue hive path name value).2 ⟨p, n, hprevails⟩, hother⟩
      · exact Handle.getString_eq_valueNotFound_iff.trans (hnone hive path name)
  · exact ⟨ofSheet other, ofText_eq_ok_iff.2 ⟨_, h', rfl⟩,
      (Sheet.alike_of_reordered hdistinct hreordered).answersAlike⟩

/-- A file that spells one cell in three ways. -/
def threeSpellings : String :=
  "local_machine:\n  'Soft/Java':\n    HOME: 'b'\n  'SOFT\\java':\n    home: 7\n    Home: 'a'\n"

/-- The same file in another order. -/
def threeSpellingsReordered : String :=
  "local_machine:\n  'SOFT\\java':\n    Home: 'a'\n    home: 7\n  'Soft/Java':\n    HOME: 'b'\n"

/-- What the file says. -/
def threeSpellingsSheet : Sheet :=
  ⟨[("Soft/Java", [("HOME", .string "b")]),
    ("SOFT\\java", [("home", .dword 7), ("Home", .string "a")])], []⟩

theorem threeSpellingsSheet_prevails :
    threeSpellingsSheet.Prevails .localMachine "soft/java/" "home" "Soft/Java" "HOME"
      (.string "b") where
  lists := ⟨[("HOME", .string "b")], rfl, rfl⟩
  path_eq := by decide +kernel
  name_eq := by decide +kernel
  greatest p' n' value' h := by
    have hrows : Sheet.rows (threeSpellingsSheet.under .localMachine) =
        [("SOFT\\java", "Home", .string "a"), ("SOFT\\java", "home", .dword 7),
          ("Soft/Java", "HOME", .string "b")] := rfl
    have hmem := Sheet.mem_rows_iff.2 h.lists
    simp only [hrows, List.mem_cons, Prod.mk.injEq, List.not_mem_nil, or_false] at hmem
    rcases hmem with ⟨rfl, rfl, -⟩ | ⟨rfl, rfl, -⟩ | ⟨rfl, rfl, -⟩
    · exact .inr (.inl (by decide +kernel))
    · exact .inr (.inl (by decide +kernel))
    · exact .inl rfl

/-- The greatest of three spellings wins, wherever it stands. -/
theorem ofText_threeSpellings :
    ∃ store, ofText threeSpellings = .ok store ∧
      (∃ key after, store.open .localMachine "soft/java/" = .ok (key, after) ∧
        key.getString "home" = .ok "b") ∧
      ∃ otherStore, ofText threeSpellingsReordered = .ok otherStore ∧
        AnswersAlike store otherStore := by
  have hdecode : Sheet.decode threeSpellings = .ok threeSpellingsSheet := by rfl
  have hdecode' : Sheet.decode threeSpellingsReordered = .ok
      ⟨[("SOFT\\java", [("Home", .string "a"), ("home", .dword 7)]),
        ("Soft/Java", [("HOME", .string "b")])], []⟩ := by rfl
  obtain ⟨store, hstore, hcells, -, hother⟩ := ofText_settled_by_byte_order hdecode
  refine ⟨store, hstore, ?_, hother _ _ hdecode' ?_ ?_⟩
  · obtain ⟨-, -, hopen, hread⟩ := hcells .localMachine "soft/java/" "home"
    obtain ⟨key, after, hkey⟩ := hopen.2
      ⟨_, _, _, threeSpellingsSheet_prevails.lists, by decide +kernel⟩
    exact ⟨key, after, hkey, ((hread key after hkey).1 "b").2
      ⟨_, _, threeSpellingsSheet_prevails⟩⟩
  · rintro (_ | _) <;> simp [threeSpellingsSheet, Sheet.under]
  · rintro (_ | _)
    · refine ⟨_, List.Perm.swap _ _ _, .cons ⟨rfl, ?_⟩ (.cons ⟨rfl, ?_⟩ .nil)⟩
      · exact ⟨_, List.Perm.swap _ _ _,
          .cons ⟨rfl, fun _ => Iff.rfl⟩ (.cons ⟨rfl, fun _ => Iff.rfl⟩ .nil)⟩
      · exact ⟨_, .refl _, .cons ⟨rfl, fun _ => Iff.rfl⟩ .nil⟩
    · exact ⟨_, .refl _, .nil⟩

end RuntimeLauncher.Store
