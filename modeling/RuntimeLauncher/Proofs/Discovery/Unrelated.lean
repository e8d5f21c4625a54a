import RuntimeLauncher.Proofs.Discovery.Steps
import RuntimeLauncher.Proofs.Store.History

/-!
# What the searches do not look at

The search for the runtime reads two cells and the search for the proxy reads one. Whatever is put
into other cells does not change what they find, even if it makes keys exist that did not exist
before.

## Main Definitions

* `Store.insertAll` — a store with a row of insertions made into it
* `RuntimeSettings.Overlooks` — a cell is none of the two that count for a store
* `RuntimeSettings.OverlooksAll` — each insertion of a row is overlooked when it is made

## Main Statements

* `tells_insert_iff` — an insertion into one cell does not change what another cell tells
* `overlooksAll_iff` — which cells count does not change along overlooked insertions
* `discovery_overlooks_insertions` — both searches find the same before and after

## Design Notes

An insertion can move a failure to a later step, since a key that was missing may exist afterwards.
So the two runs are not compared step by step. They are compared by what they find, which
`locates_ok_iff_tells` reduces to cells.
-/

namespace RuntimeLauncher

namespace Store

/-- The cell that an insertion fills. -/
def Insertion.cell (insertion : Insertion) : Cell :=
  .of insertion.hive insertion.path insertion.name

/-- The store after one more insertion. -/
def insertOne (store : Store) (insertion : Insertion) : Store :=
  store.insert insertion.hive insertion.path insertion.name insertion.value

/-- The store after a row of insertions. -/
def insertAll (store : Store) (insertions : History) : Store := insertions.foldl insertOne store

variable {store : Store} {cell : Cell} {text : String}

theorem insertAll_cons (store : Store) (insertion : Insertion) (rest : History) :
    store.insertAll (insertion :: rest) = (store.insertOne insertion).insertAll rest := rfl

/-- **An insertion into one cell does not change what another cell tells.** -/
theorem tells_insert_iff {insertion : Insertion} (h : insertion.cell ≠ cell) :
    (store.insertOne insertion).Tells cell text ↔ store.Tells cell text := by
  have hget : (store.insertOne insertion).cells.get? cell = store.cells.get? cell :=
    Cells.get?_put_of_ne store.cells insertion.value h.symm
  rw [Tells, Tells, hget]

theorem tells_insertAll_iff {insertions : History} (h : ∀ i ∈ insertions, i.cell ≠ cell) :
    (store.insertAll insertions).Tells cell text ↔ store.Tells cell text := by
  induction insertions generalizing store with
  | nil => rfl
  | cons insertion rest ih =>
    obtain ⟨hhead, hrest⟩ := List.forall_mem_cons.1 h
    rw [insertAll_cons, ih hrest, tells_insert_iff hhead]

end Store

/-! ### The two cells of the search for the runtime -/

namespace RuntimeSettings

/-- The search does not look at this cell: it is not the one that names the version, and not the one
of the version that is told now. -/
def Overlooks (settings : RuntimeSettings) (store : Store) (cell : Store.Cell) : Prop :=
  cell ≠ settings.versionCell ∧
    ∀ version, store.Tells settings.versionCell version → cell ≠ settings.homeCell version

/-- Each insertion of a row is into a cell that the search does not look at by then. -/
def OverlooksAll (settings : RuntimeSettings) : Store → Store.History → Prop
  | _, [] => True
  | store, insertion :: rest =>
    settings.Overlooks store insertion.cell ∧ settings.OverlooksAll (store.insertOne insertion) rest

variable {settings : RuntimeSettings} {store : Store}

/-- An overlooked insertion does not change which cells count. -/
theorem overlooks_insert_iff {insertion : Store.Insertion} {cell : Store.Cell}
    (h : settings.Overlooks store insertion.cell) :
    settings.Overlooks (store.insertOne insertion) cell ↔ settings.Overlooks store cell := by
  simp only [Overlooks, Store.tells_insert_iff h.1]

/-- **Which cells count does not change along overlooked insertions.** -/
theorem overlooksAll_iff {insertions : Store.History} :
    settings.OverlooksAll store insertions ↔ ∀ i ∈ insertions, settings.Overlooks store i.cell := by
  induction insertions generalizing store with
  | nil => simp [OverlooksAll]
  | cons insertion rest ih =>
    rw [OverlooksAll, List.forall_mem_cons]
    refine and_congr_right fun h => ?_
    rw [ih]
    exact forall₂_congr fun _ _ => overlooks_insert_iff h

end RuntimeSettings

/-! ### Two runs -/

section Runs

variable {settings : RuntimeSettings} {store : Store}

/-- One overlooked insertion does not change what the search finds. -/
theorem locates_ok_insert_iff {insertion : Store.Insertion} {path : String}
    (h : settings.Overlooks store insertion.cell) :
    Locates settings (store.insertOne insertion) (.ok path) ↔
      Locates settings store (.ok path) := by
  simp only [locates_ok_iff_tells, Store.tells_insert_iff h.1]
  -- The same version is told before and after, so the same second cell counts.
  refine exists_congr fun version => and_congr_right fun hversion => ?_
  simp only [Store.tells_insert_iff (h.2 version hversion)]

/-- Nor does a row of them. -/
theorem locates_ok_insertAll_iff {insertions : Store.History} {path : String}
    (h : settings.OverlooksAll store insertions) :
    Locates settings (store.insertAll insertions) (.ok path) ↔
      Locates settings store (.ok path) := by
  induction insertions generalizing store with
  | nil => rfl
  | cons insertion rest ih => rw [Store.insertAll_cons, ih h.2, locates_ok_insert_iff h.1]

/-- Two ends of the search that find the same, or nothing both. -/
theorem toOption_eq_of_locates {other : Store} {before after : Except LocateError String}
    (hbefore : Locates settings store before) (hafter : Locates settings other after)
    (h : ∀ path, Locates settings other (.ok path) ↔ Locates settings store (.ok path)) :
    before.toOption = after.toOption := by
  cases before with
  | ok path =>
    have hpath : Locates settings other (.ok path) := (h path).2 hbefore
    rw [hafter.answers.unique hpath.answers]
  | error e =>
    -- Whatever is found on the other store is found on this one.
    cases after with
    | ok path => exact nomatch hbefore.answers.unique ((h path).1 hafter).answers
    | error e' => rfl

end Runs

/-- **The searches overlook what is put into other cells.**  A row of insertions, none of them into
a cell that the search for the runtime looks at when it is made, does not change the path that is
found, and if none is found it does not help to find one.  A row of insertions, none of them into
the cell of the proxy, does not change the address. -/
theorem discovery_overlooks_insertions (store : Store) (runtime : RuntimeSettings)
    (proxy : ProxySettings) (insertions : Store.History) :
    (runtime.OverlooksAll store insertions → ∃ before after,
      (locateRuntime runtime).Answers store before ∧
      (locateRuntime runtime).Answers (store.insertAll insertions) after ∧
      before.toOption = after.toOption) ∧
    ((∀ i ∈ insertions, i.cell ≠ proxy.cell) → ∃ address,
      (resolveProxy proxy).Answers store address ∧
      (resolveProxy proxy).Answers (store.insertAll insertions) address) := by
  constructor
  · intro h
    obtain ⟨before, hbefore⟩ := exists_locates runtime store
    obtain ⟨after, hafter⟩ := exists_locates runtime (store.insertAll insertions)
    exact ⟨before, after, hbefore.answers, hafter.answers,
      toOption_eq_of_locates hbefore hafter fun _ => locates_ok_insertAll_iff h⟩
  · intro h
    obtain ⟨address, events, hyields⟩ := resolveProxy_restores proxy store
    have hanswers : (resolveProxy proxy).Answers store address := ⟨events, hyields⟩
    refine ⟨address, hanswers, ?_⟩
    simpa only [resolveProxy_answers_iff, Store.tells_insertAll_iff h] using hanswers

/-! ### Insertions all around the keys -/

namespace Neighbours

/-- The settings of the search for the runtime. -/
def runtime : RuntimeSettings := ⟨.localMachine, "k", "v", "h", ""⟩

/-- The settings of the search for the proxy. -/
def proxy : ProxySettings := ⟨.currentUser, "k", "v", "p"⟩

/-- A store that names a runtime and a proxy. -/
def named : Store :=
  Store.empty.insertAll
    [⟨.localMachine, "k", "v", .string "1"⟩, ⟨.localMachine, "k\\1", "h", .string "java"⟩,
      ⟨.currentUser, "k", "v", .string "host"⟩]

/-- Insertions over, below and beside the keys that are read, and into the same keys of the other
hive. -/
def crowd : Store.History :=
  [⟨.localMachine, "", "v", .string "2"⟩, ⟨.localMachine, "k\\1\\h", "h", .string "deep"⟩,
    ⟨.localMachine, "K/10", "h", .string "ten"⟩, ⟨.localMachine, "k", "h", .string "here"⟩,
    ⟨.currentUser, "k\\1", "h", .dword 7⟩, ⟨.currentUser, "k", "w", .string "none"⟩]

theorem named_tells_version : named.Tells runtime.versionCell "1" := ⟨by rfl, by decide⟩

theorem named_tells_home : named.Tells (runtime.homeCell "1") "java" := ⟨by rfl, by decide⟩

theorem named_tells_proxy : named.Tells proxy.cell "host" := ⟨by rfl, by decide⟩

theorem overlooks_crowd : runtime.OverlooksAll named crowd := by
  refine RuntimeSettings.overlooksAll_iff.2 fun i hi => ⟨?_, fun version hversion => ?_⟩
  · revert i
    decide
  · obtain rfl := hversion.unique named_tells_version
    revert i
    decide

end Neighbours

/-- A store in which both searches find something, and go on finding it among the insertions. -/
theorem discovery_overlooks_neighbours :
    (Neighbours.runtime.OverlooksAll Neighbours.named Neighbours.crowd ∧
      (locateRuntime Neighbours.runtime).Answers Neighbours.named (.ok "java") ∧
      (locateRuntime Neighbours.runtime).Answers
        (Neighbours.named.insertAll Neighbours.crowd) (.ok "java")) ∧
    (∀ i ∈ Neighbours.crowd, i.cell ≠ Neighbours.proxy.cell) ∧
      (resolveProxy Neighbours.proxy).Answers Neighbours.named (some "host") ∧
      (resolveProxy Neighbours.proxy).Answers
        (Neighbours.named.insertAll Neighbours.crowd) (some "host") := by
  have hproxy : ∀ i ∈ Neighbours.crowd, i.cell ≠ Neighbours.proxy.cell := by decide
  have hjava : Locates Neighbours.runtime Neighbours.named (.ok "java") :=
    locates_ok_iff_tells.2
      ⟨"1", Neighbours.named_tells_version, "java", Neighbours.named_tells_home, rfl⟩
  have hhost := resolveProxy_answers_some Neighbours.named_tells_proxy
  obtain ⟨hpath, haddress⟩ := discovery_overlooks_insertions Neighbours.named Neighbours.runtime
    Neighbours.proxy Neighbours.crowd
  obtain ⟨before, after, hbefore, hafter, hsame⟩ := hpath Neighbours.overlooks_crowd
  obtain ⟨address, hnow, hthen⟩ := haddress hproxy
  obtain rfl := hbefore.unique hjava.answers
  obtain rfl := hnow.unique hhost
  obtain rfl : after = .ok "java" := by
    cases after with
    | ok path =>
      obtain rfl : "java" = path := Option.some_inj.1 hsame
      rfl
    | error e => exact nomatch hsame
  exact ⟨⟨Neighbours.overlooks_crowd, hjava.answers, hafter⟩, hproxy, hhost, hthen⟩

end RuntimeLauncher
